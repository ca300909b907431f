import Telemetry.Files
import Telemetry.Schema.Entry
import Telemetry.Text.Character
import Telemetry.Time.Instant

namespace Telemetry

namespace Schema

structure Identity where
  app : String
  version : String
deriving DecidableEq, Repr

end Schema

structure Schema where
  identity : Schema.Identity
  measurements : Table String Schema.Entry
  createdAt : Option Time.Instant

inductive SchemaError where
  | empty (identity : Schema.Identity)
  | missingIdentity
  | duplicateId (id : UInt32) (first second : String)
  | duplicateSchema (identity : Schema.Identity) (first second : String)
  | parse
  | io (path : String)
  | store (reason : String)
deriving DecidableEq, Repr

namespace SchemaError

def kind : SchemaError → String
  | empty _ => "empty"
  | missingIdentity => "missing_identity"
  | duplicateId .. => "duplicate_id"
  | duplicateSchema .. => "duplicate_schema"
  | parse => "parse"
  | io _ => "io"
  | store _ => "store"

def message : SchemaError → String
  | empty i => "schema " ++ i.app ++ "@" ++ i.version ++ " declares no measurements"
  | missingIdentity => "schema identity is incomplete: app_name and version are required"
  | duplicateId id first second =>
    "measurement id " ++ toString id ++ " is declared by both '" ++ first ++ "' and '" ++ second ++
      "'"
  | duplicateSchema i first second =>
    "schema " ++ i.app ++ "@" ++ i.version ++ " is declared by both " ++ first ++ " and " ++ second
  | parse => "failed to parse schema document: " ++ Fault.json.mark
  | io path => "failed to read schema document " ++ path ++ ": " ++ Fault.io.mark
  | store reason => "schema store failure: " ++ reason

def chain : SchemaError → List String
  | parse => [parse.message, Fault.json.mark]
  | io path => [(io path).message, Fault.io.mark]
  | e => [e.message]

end SchemaError

namespace Schema

def new (identity : Identity) : Schema := ⟨identity, ∅, none⟩

def withEntry (s : Schema) (e : Entry) : Schema :=
  ⟨s.identity, s.measurements.insert e.name e, s.createdAt⟩

def entries (s : Schema) : List Entry := s.measurements.values

def lookup (s : Schema) : Lookup := Lookup.ofEntries s.entries

def duplicate? (seen : Table UInt32 String) : List Entry → Option SchemaError
  | [] => none
  | e :: es =>
    match seen.get? e.id with
    | some first => some (.duplicateId e.id first e.name)
    | none => duplicate? (seen.insert e.id e.name) es

def defect? (s : Schema) : Option SchemaError :=
  if Text.isBlankText s.identity.app ∨ Text.isBlankText s.identity.version then
    some .missingIdentity
  else if s.measurements.isEmpty then some (.empty s.identity)
  else duplicate? ∅ s.entries

def validate (s : Schema) : Except SchemaError Unit :=
  match s.defect? with
  | some e => .error e
  | none => .ok ()

end Schema

end Telemetry
