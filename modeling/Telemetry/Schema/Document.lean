import Telemetry.Schema.Basic
import Telemetry.Time.Rfc3339

namespace Telemetry.Schema

open Json

def toJson (s : Schema) : Value :=
  .record ([("app_name", .text s.identity.app), ("version", .text s.identity.version),
    ("measurements", .record (s.measurements.entries.map fun (k, e) => (k, e.toJson)))] ++
    match s.createdAt with
    | some t => [("created_at", t.toJson)]
    | none => [])

/-- Under a key that occurs twice the later entry counts, in the earlier place. -/
def entriesOfJson? : Value → Option (Table String Entry)
  | .object members => do
    let members ← namedMembers members
    let entries ← members.mapM fun (k, v) => (Entry.ofJson? v).map (k, ·)
    return Table.ofList entries
  | _ => none

def createdAtOfJson? : Option Value → Option (Option Time.Instant)
  | none => some none
  | some .null => some none
  | some v => (Time.Instant.ofJson? v).map some

def ofJson? (j : Value) : Option Schema :=
  match j.fields? ["app_name", "version", "measurements", "created_at"] with
  | some [some app, some version, some measurements, createdAt] => do
    return ⟨⟨← app.text?, ← version.text?⟩, ← entriesOfJson? measurements,
      ← createdAtOfJson? createdAt⟩
  | _ => none

def fillNames (s : Schema) : Schema :=
  ⟨s.identity,
    s.measurements.map fun k e => if e.name = "" then ⟨e.id, k, e.declared, e.unit⟩ else e,
    s.createdAt⟩

def ofText (text : String) : Except SchemaError Schema :=
  match (parse text).bind ofJson? with
  | none => .error .parse
  | some s =>
    match s.fillNames.defect? with
    | some e => .error e
    | none => .ok s.fillNames

end Telemetry.Schema
