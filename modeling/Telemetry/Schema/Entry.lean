import Telemetry.Json.Shape
import Telemetry.Table

namespace Telemetry.Schema

structure Entry where
  id : UInt32
  name : String
  declared : String
  unit : String
deriving DecidableEq, Repr

namespace Entry

def timestampName : String := "timestamp"

def isTimestamp (e : Entry) : Bool := e.name == timestampName

open Json

def toJson (e : Entry) : Value :=
  .record [("id", .nat e.id.toNat), ("name", .text e.name), ("type", .text e.declared),
    ("unit", .text e.unit)]

def optionalText? : Option Value → Option String
  | some v => v.text?
  | none => some ""

def ofJson? (j : Value) : Option Entry :=
  match j.fields? ["id", "name", "type", "unit"] with
  | some [some id, name, declared, unit] => do
    return ⟨← id.uint32?, ← optionalText? name, ← optionalText? declared, ← optionalText? unit⟩
  | _ => none

end Entry

abbrev Lookup := Table UInt32 Entry

def Lookup.ofEntries (entries : List Entry) : Lookup :=
  Table.ofList (entries.map fun e => (e.id, e))

end Telemetry.Schema
