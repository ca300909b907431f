import Telemetry.Number.Binary
import Telemetry.Text.Utf8
import Telemetry.Wire.Field
import Telemetry.Wire.Varint

namespace Telemetry.Wire

open Number Text

inductive Item where
  | tag (field : UInt32) (type : WireType)
  | varint (field : UInt32) (value : UInt64)
  | uint32 (field : UInt32) (value : UInt32)
  | uint64 (field : UInt32) (value : UInt64)
  | int32 (field : UInt32) (value : Int32)
  | int64 (field : UInt32) (value : Int64)
  | sint32 (field : UInt32) (value : Int32)
  | sint64 (field : UInt32) (value : Int64)
  | bool (field : UInt32) (value : Bool)
  | fixed32 (field : UInt32) (value : UInt32)
  | fixed64 (field : UInt32) (value : UInt64)
  | float (field : UInt32) (value : Binary32)
  | double (field : UInt32) (value : Binary64)
  | bytes (field : UInt32) (value : List UInt8)
  | string (field : UInt32) (value : String)
  | message (field : UInt32) (items : List Item)
  | raw (bytes : List UInt8)
deriving Inhabited

def encodeTag (field : UInt32) (type : WireType) : List UInt8 :=
  Varint.encode ((field.toUInt64 <<< 3) ||| UInt64.ofNat type.code)

def littleEndianBytes : Nat → Nat → List UInt8
  | 0, _ => []
  | count + 1, n => UInt8.ofNat (n % 256) :: littleEndianBytes count (n / 256)

def Field.encode (f : Field) : List UInt8 :=
  encodeTag f.number f.wireType ++
    match f.payload with
    | .varint raw => Varint.encode raw
    | .fixed64 raw => littleEndianBytes 8 raw.toNat
    | .bytes raw => Varint.encode (UInt64.ofNat raw.length) ++ raw
    | .fixed32 raw => littleEndianBytes 4 raw.toNat

mutual

def Item.encode : Item → List UInt8
  | .tag n t => encodeTag n t
  | .varint n v => Field.encode ⟨n, .varint v⟩
  | .uint32 n v => Field.encode ⟨n, .varint v.toUInt64⟩
  | .uint64 n v => Field.encode ⟨n, .varint v⟩
  | .int32 n v => Field.encode ⟨n, .varint v.toInt64.toUInt64⟩
  | .int64 n v => Field.encode ⟨n, .varint v.toUInt64⟩
  | .sint32 n v => Field.encode ⟨n, .varint (Zigzag.encode32 v)⟩
  | .sint64 n v => Field.encode ⟨n, .varint (Zigzag.encode64 v)⟩
  | .bool n v => Field.encode ⟨n, .varint v.toUInt64⟩
  | .fixed32 n v => Field.encode ⟨n, .fixed32 v⟩
  | .fixed64 n v => Field.encode ⟨n, .fixed64 v⟩
  | .float n v => Field.encode ⟨n, .fixed32 v.bits⟩
  | .double n v => Field.encode ⟨n, .fixed64 v.bits⟩
  | .bytes n v => Field.encode ⟨n, .bytes v⟩
  | .string n v => Field.encode ⟨n, .bytes (Utf8.encode v)⟩
  | .message n items => Field.encode ⟨n, .bytes (Item.encodeAll items)⟩
  | .raw v => v

def Item.encodeAll : List Item → List UInt8
  | [] => []
  | i :: items => i.encode ++ Item.encodeAll items

end

end Telemetry.Wire
