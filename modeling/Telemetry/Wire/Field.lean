/-! The content of a message: numbered fields whose payloads have one of four shapes. -/

namespace Telemetry.Wire

inductive WireType where
  | varint
  | fixed64
  | bytes
  | fixed32
deriving DecidableEq, Repr

namespace WireType

def code : WireType → Nat
  | varint => 0
  | fixed64 => 1
  | bytes => 2
  | fixed32 => 5

def ofCode? : Nat → Option WireType
  | 0 => some varint
  | 1 => some fixed64
  | 2 => some bytes
  | 5 => some fixed32
  | _ => none

def name : WireType → String
  | varint => "varint"
  | fixed64 => "fixed64"
  | bytes => "bytes"
  | fixed32 => "fixed32"

end WireType

inductive Payload where
  | varint (raw : UInt64)
  | fixed64 (raw : UInt64)
  | bytes (raw : List UInt8)
  | fixed32 (raw : UInt32)
deriving DecidableEq, Repr

def Payload.wireType : Payload → WireType
  | varint _ => .varint
  | fixed64 _ => .fixed64
  | bytes _ => .bytes
  | fixed32 _ => .fixed32

structure Field where
  number : UInt32
  payload : Payload
deriving DecidableEq, Repr

def Field.wireType (f : Field) : WireType :=
  f.payload.wireType

abbrev Message := List Field

namespace Message

def first? (m : Message) (number : UInt32) : Option Field :=
  m.find? (·.number = number)

def numbered (m : Message) (number : UInt32) : List Field :=
  m.filter (·.number = number)

end Message

end Telemetry.Wire
