import Telemetry.Measurement.Value
import Telemetry.Wire.Item
import Telemetry.Wire.View

namespace Telemetry

open Wire

/-- There is no value if no field for one was sent, or the first such field has the wrong wire
type. -/
structure Measurement where
  id : UInt32
  value : Option Measurement.Value
deriving DecidableEq

namespace Measurement

def envelopeField : UInt32 := 1

def idField : UInt32 := 1

def slot? (m : Message) : Option (Kind × Field) :=
  m.findSome? fun f => (Kind.ofSlot? f.number).map (·, f)

def ofMessage (m : Message) : Measurement where
  id := ((m.first? idField).bind (·.payload.uint32?)).getD 0
  value := (slot? m).bind fun (k, f) => Value.ofPayload? f.payload k

def decodeAll (bytes : List UInt8) : Except DecodeError (List Measurement) :=
  match decodeRepeated bytes envelopeField with
  | .ok ms => .ok (ms.map ofMessage)
  | .error e => .error e

def Value.item (v : Value) : Item :=
  match v with
  | float32 x => .float v.kind.slot x
  | float64 x => .double v.kind.slot x
  | int32 x => .int32 v.kind.slot x
  | int64 x => .int64 v.kind.slot x
  | uint32 x => .uint32 v.kind.slot x
  | uint64 x => .uint64 v.kind.slot x
  | bool x => .bool v.kind.slot x

def items (m : Measurement) : List Item :=
  .uint32 idField m.id :: m.value.toList.map Value.item

end Measurement

structure Batch where
  bytes : List UInt8
  size : Nat
deriving DecidableEq

namespace Batch

def empty : Batch := ⟨[], 0⟩

def isEmpty (b : Batch) : Bool := b.size == 0

def push (b : Batch) (m : Measurement) : Batch :=
  ⟨b.bytes ++ (Item.message Measurement.envelopeField m.items).encode, b.size + 1⟩

end Batch

end Telemetry
