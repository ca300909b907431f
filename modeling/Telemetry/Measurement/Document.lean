import Telemetry.Json.Shape
import Telemetry.Measurement.Basic

namespace Telemetry

open Json

def Wire.WireType.toJson : WireType → Json.Value
  | .varint => .text "varint"
  | .fixed64 => .text "fixed64"
  | .bytes => .text "length_delimited"
  | .fixed32 => .text "fixed32"

namespace Measurement

def Kind.toJson (k : Kind) : Json.Value := .text k.name

def Kind.ofJson? (j : Json.Value) : Option Kind := j.word? ofName?

namespace Value

def content : Value → Json.Value
  | float32 v => .float32 v
  | float64 v => .float64 v
  | int32 v => .int v.toInt
  | int64 v => .int v.toInt
  | uint32 v => .nat v.toNat
  | uint64 v => .nat v.toNat
  | bool v => .bool v

def toJson (v : Value) : Json.Value :=
  .record [("kind", v.kind.toJson), ("value", v.content)]

def ofContent? (j : Json.Value) : Kind → Option Value
  | .float32 => j.float32?.map float32
  | .float64 => j.float64?.map float64
  | .int32 => j.int32?.map int32
  | .int64 => j.int64?.map int64
  | .uint32 => j.uint32?.map uint32
  | .uint64 => j.uint64?.map uint64
  | .bool => j.bool?.map bool

def ofJson? : Json.Value → Option Value
  | .array [k, v] => (k.text?.bind Kind.ofName?).bind (ofContent? v)
  | .array _ => none
  | j =>
    match j.fields? ["kind", "value"] with
    | some [some k, some v] => (Kind.ofJson? k).bind (ofContent? v)
    | _ => none

end Value

end Measurement

end Telemetry
