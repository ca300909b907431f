import Telemetry.Text.Utf8

namespace Telemetry.Wire

open Text

/-- Offsets count from the start of the message in which the defect stands. -/
inductive DecodeError where
  | malformedVarint (offset : Nat)
  | truncatedVarint (offset : Nat)
  | unknownWireType (field : UInt32) (code offset : Nat)
  | truncatedFixed32 (field : UInt32) (offset : Nat)
  | truncatedFixed64 (field : UInt32) (offset : Nat)
  | truncatedBytes (field : UInt32) (declared : UInt64) (remaining offset : Nat)
  | nested (field : UInt32) (index : Nat) (inner : DecodeError)
  | invalidUtf8 (defect : Utf8.Defect)
deriving DecidableEq, Repr

namespace DecodeError

def kind : DecodeError → String
  | malformedVarint _ => "malformed_varint"
  | truncatedVarint _ => "truncated_varint"
  | unknownWireType .. => "unknown_wire_type"
  | truncatedFixed32 .. => "truncated_fixed32"
  | truncatedFixed64 .. => "truncated_fixed64"
  | truncatedBytes .. => "truncated_bytes"
  | nested .. => "nested_decode_error"
  | invalidUtf8 _ => "invalid_utf8"

def root : DecodeError → DecodeError
  | nested _ _ inner => inner.root
  | e => e

def message : DecodeError → String
  | malformedVarint offset =>
    "malformed varint at offset " ++ toString offset ++ ": exceeds 10 bytes"
  | truncatedVarint offset => "truncated varint at offset " ++ toString offset
  | unknownWireType field code offset =>
    "field " ++ toString field ++ ": unknown wire type " ++ toString code ++
      " at offset " ++ toString offset
  | truncatedFixed32 field offset =>
    "field " ++ toString field ++ ": not enough data for fixed32 at offset " ++ toString offset
  | truncatedFixed64 field offset =>
    "field " ++ toString field ++ ": not enough data for fixed64 at offset " ++ toString offset
  | truncatedBytes field declared remaining offset =>
    "field " ++ toString field ++ ": length " ++ toString declared ++ " exceeds remaining " ++
      toString remaining ++ " bytes at offset " ++ toString offset
  | nested field index inner =>
    "embedded message #" ++ toString index ++ " at field " ++ toString field ++ ": " ++
      inner.message
  | invalidUtf8 defect => "invalid utf-8 in length-delimited field: " ++ defect.message

def chain : DecodeError → List String
  | nested field index inner => (nested field index inner).message :: inner.chain
  | invalidUtf8 defect => [(invalidUtf8 defect).message, defect.message]
  | e => [e.message]

def shift (n : Nat) : DecodeError → DecodeError
  | malformedVarint offset => malformedVarint (n + offset)
  | truncatedVarint offset => truncatedVarint (n + offset)
  | unknownWireType field code offset => unknownWireType field code (n + offset)
  | truncatedFixed32 field offset => truncatedFixed32 field (n + offset)
  | truncatedFixed64 field offset => truncatedFixed64 field (n + offset)
  | truncatedBytes field declared remaining offset =>
    truncatedBytes field declared remaining (n + offset)
  | e => e

end DecodeError

end Telemetry.Wire
