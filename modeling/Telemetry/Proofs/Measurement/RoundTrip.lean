import Telemetry.Proofs.Measurement.Envelope
import Telemetry.Proofs.Wire.Writer

namespace Telemetry

open Wire

namespace Measurement

def Value.payload : Value → Payload
  | float32 x => .fixed32 x.bits
  | float64 x => .fixed64 x.bits
  | int32 x => .varint x.toInt64.toUInt64
  | int64 x => .varint x.toUInt64
  | uint32 x => .varint x.toUInt64
  | uint64 x => .varint x
  | bool x => .varint x.toUInt64

def fields (m : Measurement) : Message :=
  ⟨idField, .varint m.id.toUInt64⟩ :: m.value.toList.map fun v => ⟨v.kind.slot, v.payload⟩

lemma Kind.ofSlot?_slot (k : Kind) : ofSlot? k.slot = some k := by
  cases k <;> rfl

lemma Value.ofPayload?_payload (v : Value) : ofPayload? v.payload v.kind = some v := by
  cases v with
  | int32 x => simp [payload, kind, ofPayload?, Payload.int32?, Payload.uint64?, toInt32_extended]
  | bool x => cases x <;> rfl
  | _ => simp [payload, kind, ofPayload?, Payload.int64?, Payload.uint32?, Payload.uint64?,
      Payload.float32?, Payload.float64?]

lemma Value.payload_ne_bytes (v : Value) (raw : List UInt8) : v.payload ≠ .bytes raw := by
  cases v <;> simp [payload]

lemma Value.encode_item (v : Value) : v.item.encode = Field.encode ⟨v.kind.slot, v.payload⟩ := by
  cases v <;> simp only [item, payload, Item.encode]

lemma encodeAll_items (m : Measurement) :
    Item.encodeAll m.items = m.fields.flatMap Field.encode := by
  rcases m with ⟨id, value⟩
  cases value with
  | none => simp [items, fields, Item.encodeAll, Item.encode]
  | some v => simp [items, fields, Item.encodeAll, Item.encode, Value.encode_item]

lemma payload_ne_bytes {m : Measurement} {f : Field} (hf : f ∈ m.fields) (raw : List UInt8) :
    f.payload ≠ .bytes raw := by
  rcases List.mem_cons.mp hf with rfl | hf
  · simp
  · obtain ⟨v, -, rfl⟩ := List.mem_map.mp hf
    exact v.payload_ne_bytes raw

lemma decode_items (m : Measurement) : Message.decode (Item.encodeAll m.items) = .ok m.fields := by
  rw [encodeAll_items]
  apply Message.decode_flatMap_encode
  intro f hf raw hraw
  exact absurd hraw (payload_ne_bytes hf raw)

lemma ofMessage_fields (m : Measurement) : ofMessage m.fields = m := by
  rcases m with ⟨id, value⟩
  have hid : Kind.ofSlot? idField = none := by decide
  cases value with
  | none => simp [ofMessage, fields, slot?, hid, Message.first?, Payload.uint32?, Payload.uint64?]
  | some v =>
    simp [ofMessage, fields, slot?, hid, Kind.ofSlot?_slot, Value.ofPayload?_payload,
      Message.first?, Payload.uint32?, Payload.uint64?]

def envelope (m : Measurement) : Field :=
  ⟨envelopeField, .bytes (Item.encodeAll m.items)⟩

lemma length_items_lt (m : Measurement) : (Item.encodeAll m.items).length < 2 ^ 64 := by
  have hid : (Field.encode ⟨idField, .varint m.id.toUInt64⟩).length ≤ 20 :=
    Field.length_encode_le (by simp)
  rw [encodeAll_items]
  cases hvalue : m.value with
  | none =>
    simp only [fields, hvalue, Option.toList_none, List.map_nil, List.flatMap_cons,
      List.flatMap_nil, List.append_nil]
    omega
  | some v =>
    have hv : (Field.encode ⟨v.kind.slot, v.payload⟩).length ≤ 20 :=
      Field.length_encode_le v.payload_ne_bytes
    simp only [fields, hvalue, Option.toList_some, List.map_cons, List.map_nil, List.flatMap_cons,
      List.flatMap_nil, List.append_nil, List.length_append]
    omega

lemma envelope_fits (m : Measurement) : m.envelope.Fits := by
  intro raw hraw
  obtain rfl := Payload.bytes.inj hraw
  exact m.length_items_lt

lemma message?_envelope (m : Measurement) : m.envelope.payload.message? = some (.ok m.fields) := by
  simp only [envelope, Payload.message?, Payload.bytes?, Option.map_some, decode_items]

lemma numbered_envelopes (ms : List Measurement) :
    Message.numbered (ms.map envelope) envelopeField = ms.map envelope := by
  apply List.filter_eq_self.mpr
  intro f hf
  obtain ⟨m, -, rfl⟩ := List.mem_map.mp hf
  exact decide_eq_true rfl

end Measurement

namespace Batch

open Measurement

lemma bytes_foldl_push (ms : List Measurement) (b : Batch) :
    (ms.foldl push b).bytes = b.bytes ++ (ms.map envelope).flatMap Field.encode := by
  induction ms generalizing b with
  | nil => simp
  | cons m ms ih =>
    rw [List.foldl_cons, ih, List.map_cons, List.flatMap_cons, ← List.append_assoc]
    simp only [push, Item.encode, envelope]

lemma size_foldl_push (ms : List Measurement) (b : Batch) :
    (ms.foldl push b).size = b.size + ms.length := by
  induction ms generalizing b with
  | nil => rfl
  | cons m ms ih =>
    have hpush : (b.push m).size = b.size + 1 := rfl
    rw [List.foldl_cons, ih, List.length_cons, hpush]
    omega

theorem decodeAll_foldl_push (ms : List Measurement) :
    (ms.foldl push empty).size = ms.length ∧ decodeAll (ms.foldl push empty).bytes = .ok ms := by
  constructor
  · rw [size_foldl_push]
    exact Nat.zero_add _
  · rw [bytes_foldl_push, decodeAll_eq_ok_iff]
    refine ⟨ms.map envelope, ms.map fields, ?_, ?_, ?_⟩
    · apply Message.decode_flatMap_encode
      intro f hf
      obtain ⟨m, -, rfl⟩ := List.mem_map.mp hf
      exact m.envelope_fits
    · rw [numbered_envelopes, List.filterMap_map, List.map_map]
      simp [Function.comp_def, message?_envelope]
    · rw [List.map_map]
      simp [Function.comp_def, ofMessage_fields]

end Batch

end Telemetry
