import Telemetry.Proofs.Text.Utf8
import Telemetry.Proofs.Wire.Writer
import Telemetry.Proofs.Wire.Zigzag
import Telemetry.Wire.View

namespace Telemetry.Wire

open Number Text

mutual

def Item.isFramed : Item → Bool
  | .tag .. => false
  | .raw _ => false
  | .message _ items => Item.areFramed items
  | _ => true

def Item.areFramed : List Item → Bool
  | [] => true
  | i :: items => i.isFramed && Item.areFramed items

end

inductive Item.Shows : Item → Field → Prop
  | varint {n : UInt32} {v : UInt64} {p : Payload} : p.uint64? = some v → Shows (.varint n v) ⟨n, p⟩
  | uint32 {n v : UInt32} {p : Payload} : p.uint32? = some v → Shows (.uint32 n v) ⟨n, p⟩
  | uint64 {n : UInt32} {v : UInt64} {p : Payload} : p.uint64? = some v → Shows (.uint64 n v) ⟨n, p⟩
  | int32 {n : UInt32} {v : Int32} {p : Payload} : p.int32? = some v → Shows (.int32 n v) ⟨n, p⟩
  | int64 {n : UInt32} {v : Int64} {p : Payload} : p.int64? = some v → Shows (.int64 n v) ⟨n, p⟩
  | sint32 {n : UInt32} {v : Int32} {p : Payload} : p.sint32? = some v → Shows (.sint32 n v) ⟨n, p⟩
  | sint64 {n : UInt32} {v : Int64} {p : Payload} : p.sint64? = some v → Shows (.sint64 n v) ⟨n, p⟩
  | bool {n : UInt32} {v : Bool} {p : Payload} : p.bool? = some v → Shows (.bool n v) ⟨n, p⟩
  | fixed32 {n v : UInt32} : Shows (.fixed32 n v) ⟨n, .fixed32 v⟩
  | fixed64 {n : UInt32} {v : UInt64} : Shows (.fixed64 n v) ⟨n, .fixed64 v⟩
  | float {n : UInt32} {v : Binary32} {p : Payload} :
      p.float32? = some v → Shows (.float n v) ⟨n, p⟩
  | double {n : UInt32} {v : Binary64} {p : Payload} :
      p.float64? = some v → Shows (.double n v) ⟨n, p⟩
  | bytes {n : UInt32} {v : List UInt8} {p : Payload} :
      p.bytes? = some v → Shows (.bytes n v) ⟨n, p⟩
  | string {n : UInt32} {v : String} {p : Payload} :
      p.text? = some (.ok v) → p.lossyText? = some v → Shows (.string n v) ⟨n, p⟩
  | message {n : UInt32} {items : List Item} {p : Payload} {m : Message} :
      Message.decode (Item.encodeAll items) = .ok m → p.message? = some (.ok m) →
      Field.message? ⟨n, p⟩ = some (.ok m) → List.Forall₂ Shows items m →
      Shows (.message n items) ⟨n, p⟩

lemma Field.fits_of_encode {n : UInt32} {raw : List UInt8}
    (h : (Field.encode ⟨n, .bytes raw⟩).length < 2 ^ 64) : Field.Fits ⟨n, .bytes raw⟩ := by
  intro raw' hraw
  obtain rfl := Payload.bytes.inj hraw
  simp only [Field.encode, List.length_append] at h
  omega

def Item.Shown (i : Item) : Prop :=
  ∃ f : Field, f.Fits ∧ i.encode = f.encode ∧ i.Shows f

lemma Item.Shows.shown {i : Item} {f : Field} (hs : i.Shows f) (he : i.encode = f.encode)
    (hf : ∀ raw, f.payload ≠ .bytes raw) : i.Shown :=
  ⟨f, fun raw hraw => absurd hraw (hf raw), he, hs⟩

lemma Item.Shows.shown_of_bytes {i : Item} {n : UInt32} {raw : List UInt8}
    (hs : i.Shows ⟨n, .bytes raw⟩) (he : i.encode = Field.encode ⟨n, .bytes raw⟩)
    (hsize : i.encode.length < 2 ^ 64) : i.Shown :=
  ⟨_, Field.fits_of_encode (he ▸ hsize), he, hs⟩

lemma Item.decode_of_shown {items : List Item} (h : ∀ i ∈ items, i.Shown) :
    ∃ m, Message.decode (Item.encodeAll items) = .ok m ∧ List.Forall₂ Item.Shows items m := by
  suffices ∃ m : Message, (∀ f ∈ m, f.Fits) ∧ Item.encodeAll items = m.flatMap Field.encode ∧
      List.Forall₂ Item.Shows items m by
    obtain ⟨m, hfits, he, hshows⟩ := this
    exact ⟨m, he ▸ Message.decode_flatMap_encode hfits, hshows⟩
  induction items with
  | nil => exact ⟨[], by simp, by simp [Item.encodeAll], .nil⟩
  | cons i items ih =>
    obtain ⟨f, hf, he, hs⟩ := h i (by simp)
    obtain ⟨m, hm, hes, hss⟩ := ih fun j hj => h j (by simp [hj])
    refine ⟨f :: m, by simpa using ⟨hf, hm⟩, ?_, .cons hs hss⟩
    rw [Item.encodeAll, he, hes, List.flatMap_cons]

mutual

lemma Item.shown : ∀ i : Item, i.isFramed = true → i.encode.length < 2 ^ 64 → i.Shown
  | .tag .., hframed, _ => by simp [Item.isFramed] at hframed
  | .raw _, hframed, _ => by simp [Item.isFramed] at hframed
  | .varint .., _, _ => Item.Shows.shown (.varint rfl) (by rw [encode]) (by simp)
  | .uint64 .., _, _ => Item.Shows.shown (.uint64 rfl) (by rw [encode]) (by simp)
  | .uint32 _ v, _, _ => by
    have hv : (Payload.varint v.toUInt64).uint32? = some v := by
      simp [Payload.uint32?, Payload.uint64?]
    exact Item.Shows.shown (.uint32 hv) (by rw [encode]) (by simp)
  | .int64 _ v, _, _ => by
    have hv : (Payload.varint v.toUInt64).int64? = some v := by
      simp [Payload.int64?, Payload.uint64?]
    exact Item.Shows.shown (.int64 hv) (by rw [encode]) (by simp)
  | .int32 _ v, _, _ => by
    have hv : (Payload.varint v.toInt64.toUInt64).int32? = some v := by
      simp [Payload.int32?, Payload.uint64?, toInt32_extended]
    exact Item.Shows.shown (.int32 hv) (by rw [encode]) (by simp)
  | .sint64 _ v, _, _ => by
    have hv : (Payload.varint (Zigzag.encode64 v)).sint64? = some v := by
      simp [Payload.sint64?, Payload.uint64?, Zigzag.decode64_encode64]
    exact Item.Shows.shown (.sint64 hv) (by rw [encode]) (by simp)
  | .sint32 _ v, _, _ => by
    have hv : (Payload.varint (Zigzag.encode32 v)).sint32? = some v := by
      simp [Payload.sint32?, Payload.uint64?, Zigzag.decode32_encode32]
    exact Item.Shows.shown (.sint32 hv) (by rw [encode]) (by simp)
  | .bool _ v, _, _ => by
    have hv : (Payload.varint v.toUInt64).bool? = some v := by
      cases v <;> rfl
    exact Item.Shows.shown (.bool hv) (by rw [encode]) (by simp)
  | .fixed32 .., _, _ => Item.Shows.shown .fixed32 (by rw [encode]) (by simp)
  | .fixed64 .., _, _ => Item.Shows.shown .fixed64 (by rw [encode]) (by simp)
  | .float .., _, _ => Item.Shows.shown (.float rfl) (by rw [encode]) (by simp)
  | .double .., _, _ => Item.Shows.shown (.double rfl) (by rw [encode]) (by simp)
  | .bytes .., _, hsize => Item.Shows.shown_of_bytes (.bytes rfl) (by rw [encode]) hsize
  | .string n v, _, hsize => by
    have hstrict : (Payload.bytes (Utf8.encode v)).text? = some (.ok v) := by
      rw [Payload.text?, Payload.bytes?, Option.map_some, Utf8.decode_encode]
      rfl
    have hlossy : (Payload.bytes (Utf8.encode v)).lossyText? = some v := by
      rw [Payload.lossyText?, Payload.bytes?, Option.map_some, Utf8.decodeLossy_encode]
    exact Item.Shows.shown_of_bytes (.string hstrict hlossy) (by rw [encode]) hsize
  | .message n items, hframed, hsize => by
    have he : (Item.message n items).encode = Field.encode ⟨n, .bytes (Item.encodeAll items)⟩ := by
      rw [encode]
    -- The length in front of the embedded items does not wrap, as they are shorter than the buffer.
    have hinner := Field.fits_of_encode (he ▸ hsize) _ rfl
    obtain ⟨m, hm, hshows⟩ := Item.decode_of_shown
      (Item.all_shown items (by simpa [Item.isFramed] using hframed) hinner)
    have hview : (Payload.bytes (Item.encodeAll items)).message? = some (.ok m) := by
      rw [Payload.message?, Payload.bytes?, Option.map_some, hm]
    have hfield : Field.message? ⟨n, .bytes (Item.encodeAll items)⟩ = some (.ok m) := by
      rw [Field.message?, hview]
      rfl
    exact Item.Shows.shown_of_bytes (.message hm hview hfield hshows) he hsize

lemma Item.all_shown : ∀ items : List Item, Item.areFramed items = true →
    (Item.encodeAll items).length < 2 ^ 64 → ∀ i ∈ items, i.Shown
  | [], _, _ => List.forall_mem_nil _
  | i :: items, hframed, hsize => by
    rw [Item.areFramed, Bool.and_eq_true] at hframed
    rw [Item.encodeAll, List.length_append] at hsize
    have hi := Item.shown i hframed.1 (by omega)
    have hitems := Item.all_shown items hframed.2 (by omega)
    exact List.forall_mem_cons.mpr ⟨hi, hitems⟩

end

theorem Item.decode_encodeAll (items : List Item) (hframed : Item.areFramed items = true)
    (hsize : (Item.encodeAll items).length < 2 ^ 64) :
    ∃ m, Message.decode (Item.encodeAll items) = .ok m ∧ List.Forall₂ Item.Shows items m :=
  Item.decode_of_shown (Item.all_shown items hframed hsize)

def Item.nested : List Item :=
  [.int32 0 (-1), .message 4294967295 [.sint32 1 (-2147483648), .message 2 [.string 3 "µ€𝄞"]],
    .bool 536870912 true]

theorem Item.decode_encodeAll_nested : Item.areFramed Item.nested = true ∧
    (Item.encodeAll Item.nested).length < 2 ^ 64 ∧ ∃ m : Message,
      Message.decode (Item.encodeAll Item.nested) = .ok m ∧ List.Forall₂ Item.Shows Item.nested m ∧
        m.length = 3 := by
  have hframed : Item.areFramed Item.nested = true := rfl
  have hsize : (Item.encodeAll Item.nested).length < 2 ^ 64 := by decide +kernel
  obtain ⟨m, hm, hshows⟩ := Item.decode_encodeAll Item.nested hframed hsize
  exact ⟨hframed, hsize, m, hm, hshows, hshows.length_eq.symm⟩

end Telemetry.Wire
