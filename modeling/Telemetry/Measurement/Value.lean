import Telemetry.Text.Character
import Telemetry.Wire.View

namespace Telemetry.Measurement

open Number Wire

inductive Kind where
  | float32
  | float64
  | int32
  | int64
  | uint32
  | uint64
  | bool
deriving DecidableEq, Repr

namespace Kind

def slot : Kind → UInt32
  | float32 => 2
  | float64 => 3
  | int32 => 4
  | int64 => 5
  | uint32 => 6
  | uint64 => 7
  | bool => 8

def ofSlot? (number : UInt32) : Option Kind :=
  if number = 2 then some float32
  else if number = 3 then some float64
  else if number = 4 then some int32
  else if number = 5 then some int64
  else if number = 6 then some uint32
  else if number = 7 then some uint64
  else if number = 8 then some bool
  else none

def wireType : Kind → WireType
  | float32 => .fixed32
  | float64 => .fixed64
  | _ => .varint

def name : Kind → String
  | float32 => "float32"
  | float64 => "float64"
  | int32 => "int32"
  | int64 => "int64"
  | uint32 => "uint32"
  | uint64 => "uint64"
  | bool => "bool"

def ofName? : String → Option Kind
  | "float32" => some float32
  | "float64" => some float64
  | "int32" => some int32
  | "int64" => some int64
  | "uint32" => some uint32
  | "uint64" => some uint64
  | "bool" => some bool
  | _ => none

def ofDeclared? (declared : String) : Option Kind :=
  match (Text.trim declared).toLower with
  | "float" | "float32" | "f32" => some float32
  | "double" | "float64" | "f64" => some float64
  | "int32" | "i32" | "sint32" => some int32
  | "int64" | "i64" | "sint64" => some int64
  | "uint32" | "u32" => some uint32
  | "uint64" | "u64" => some uint64
  | "bool" | "boolean" => some bool
  | _ => none

end Kind

inductive Value where
  | float32 (v : Binary32)
  | float64 (v : Binary64)
  | int32 (v : Int32)
  | int64 (v : Int64)
  | uint32 (v : UInt32)
  | uint64 (v : UInt64)
  | bool (v : Bool)
deriving DecidableEq

namespace Value

def kind : Value → Kind
  | float32 _ => .float32
  | float64 _ => .float64
  | int32 _ => .int32
  | int64 _ => .int64
  | uint32 _ => .uint32
  | uint64 _ => .uint64
  | bool _ => .bool

def toBinary64 : Value → Binary64
  | float32 v => .ofBinary32 v
  | float64 v => v
  | int32 v => .ofInt v.toInt
  | int64 v => .ofInt v.toInt
  | uint32 v => .ofInt v.toNat
  | uint64 v => .ofInt v.toNat
  | bool v => if v then .one else .zero

def epochMillis? : Value → Option Int
  | int32 v => some v.toInt
  | int64 v => some v.toInt
  | uint32 v => some v.toNat
  | uint64 v => if v.toNat < 9223372036854775808 then some v.toNat else none
  | _ => none

def ofPayload? (p : Payload) : Kind → Option Value
  | .float32 => p.float32?.map float32
  | .float64 => p.float64?.map float64
  | .int32 => p.int32?.map int32
  | .int64 => p.int64?.map int64
  | .uint32 => p.uint32?.map uint32
  | .uint64 => p.uint64?.map uint64
  | .bool => p.bool?.map bool

end Value

end Telemetry.Measurement
