import Telemetry.Number.Binary
import Telemetry.Wire.Decode

namespace Telemetry.Wire

open Number Text

namespace Payload

def uint64? : Payload → Option UInt64
  | varint raw => some raw
  | _ => none

def uint32? (p : Payload) : Option UInt32 :=
  p.uint64?.map (·.toUInt32)

def int64? (p : Payload) : Option Int64 :=
  p.uint64?.map (·.toInt64)

def int32? (p : Payload) : Option Int32 :=
  p.uint64?.map (·.toUInt32.toInt32)

def sint64? (p : Payload) : Option Int64 :=
  p.uint64?.map Zigzag.decode64

def sint32? (p : Payload) : Option Int32 :=
  p.uint64?.map Zigzag.decode32

def bool? (p : Payload) : Option Bool :=
  p.uint64?.map (· != 0)

def float32? : Payload → Option Binary32
  | fixed32 raw => some ⟨raw⟩
  | _ => none

def float64? : Payload → Option Binary64
  | fixed64 raw => some ⟨raw⟩
  | _ => none

def bytes? : Payload → Option (List UInt8)
  | bytes raw => some raw
  | _ => none

def lossyText? (p : Payload) : Option String :=
  p.bytes?.map Utf8.decodeLossy

def text? (p : Payload) : Option (Except DecodeError String) :=
  p.bytes?.map fun raw => (Utf8.decode raw).mapError .invalidUtf8

def message? (p : Payload) : Option (Except DecodeError Message) :=
  p.bytes?.map Message.decode

end Payload

def Field.message? (f : Field) : Option (Except DecodeError Message) :=
  f.payload.message?.map (·.mapError (.nested f.number 0))

def embeddedFrom (number : UInt32) (index : Nat) (seen : List Message) :
    List Field → Except DecodeError (List Message)
  | [] => .ok seen.reverse
  | f :: fields =>
    match f.payload with
    | .bytes raw =>
      match Message.decode raw with
      | .ok m => embeddedFrom number (index + 1) (m :: seen) fields
      | .error e => .error (.nested number index e)
    | _ => embeddedFrom number (index + 1) seen fields

/-- The messages embedded in the fields of one number, in stream order. Fields of that number with
another wire type are passed over. -/
def decodeRepeated (bytes : List UInt8) (number : UInt32) : Except DecodeError (List Message) :=
  match Message.decode bytes with
  | .ok envelope => embeddedFrom number 0 [] (envelope.numbered number)
  | .error e => .error e

end Telemetry.Wire
