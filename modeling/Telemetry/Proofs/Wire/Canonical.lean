import Telemetry.Proofs.Wire.Stream
import Telemetry.Proofs.Wire.Writer

/-! Many streams stand for one message. Writing the message's fields gives one of them, none is
shorter, and it is the one in which every varint is as short as its value allows. -/

namespace Telemetry.Wire

namespace Payload

def encode : Payload → List UInt8
  | .varint raw => Varint.encode raw
  | .fixed64 raw => littleEndianBytes 8 raw.toNat
  | .bytes raw => Varint.encode (UInt64.ofNat raw.length) ++ raw
  | .fixed32 raw => littleEndianBytes 4 raw.toNat

variable {code : ℕ} {body : List UInt8} {p : Payload}

lemma Encoding.code_eq (h : Encoding code body p) : p.wireType.code = code := by
  cases h <;> rfl

lemma Encoding.ofNat_length {raw : List UInt8} (h : Encoding code body (.bytes raw)) :
    raw.length < 2 ^ 64 := by
  cases h with
  | @bytes _ _ length _ hlength => exact hlength ▸ length.toNat_lt

lemma Encoding.length_encode_le (h : Encoding code body p) : p.encode.length ≤ body.length := by
  cases h with
  | varint hv => exact hv.encodeNat_length_le le_rfl
  | fixed64 hraw _ => exact (length_littleEndianBytes _ _).trans_le hraw.ge
  | @bytes digits raw length hv hlength =>
    have hdigits : (Varint.encode length).length ≤ digits.length := hv.encodeNat_length_le le_rfl
    rw [encode, hlength, UInt64.ofNat_toNat, List.length_append, List.length_append]
    exact Nat.add_le_add_right hdigits _
  | fixed32 hraw _ => exact (length_littleEndianBytes _ _).trans_le hraw.ge

lemma Encoding.eq_encode_iff (h : Encoding code body p) :
    body = p.encode ↔ (code = 0 ∨ code = 2 →
      ∀ digits v, digits <+: body → Varint.Spells digits v → digits = Varint.encode v) := by
  cases h with
  | @varint _ v hv =>
    constructor
    · rintro hshort - digits' v' ⟨rest, hrest⟩ hv'
      obtain ⟨rfl, rfl, -⟩ := hv'.append_inj hv (hrest.trans (List.append_nil _).symm)
      exact hshort
    · intro hshortest
      exact hshortest (Or.inl rfl) body v List.prefix_rfl hv
  | fixed64 hraw hv =>
    -- A word of fixed width has one form only, and no varint stands in it.
    have hbody := littleEndianBytes_positional body
    rw [hraw, ← hv] at hbody
    simp [encode, hbody]
  | @bytes digits raw length hv hlength =>
    rw [encode, hlength, UInt64.ofNat_toNat, List.append_left_inj]
    constructor
    · rintro hshort - digits' v' ⟨rest, hrest⟩ hv'
      obtain ⟨rfl, rfl, -⟩ := hv'.append_inj hv hrest
      exact hshort
    · intro hshortest
      exact hshortest (Or.inr rfl) digits length (List.prefix_append _ _) hv
  | fixed32 hraw hv =>
    have hbody := littleEndianBytes_positional body
    rw [hraw, ← hv] at hbody
    simp [encode, hbody]

end Payload

lemma encodeTag_eq_iff {digits : List UInt8} {tag : UInt64} {number : UInt32} {t : WireType}
    (ht : Varint.Spells digits tag) (hnumber : number.toNat = tag.toNat / 8 % 2 ^ 32)
    (hcode : t.code = tag.toNat % 8) :
    digits = encodeTag number t ↔ tag.toNat < 2 ^ 35 ∧ digits = Varint.encode tag := by
  have hword := toNat_tag number t
  have hlt := number.toNat_lt
  rw [encodeTag]
  generalize (number.toUInt64 <<< 3 ||| UInt64.ofNat t.code) = word at hword ⊢
  constructor
  · rintro rfl
    obtain rfl := ht.value_unique (Varint.spells_encode word)
    exact ⟨by omega, rfl⟩
  · rintro ⟨hsmall, hdigits⟩
    have htag : tag = word := by
      rw [← UInt64.toNat_inj]
      omega
    rw [hdigits, htag]

namespace Field

def item (f : Field) : Item :=
  match f.payload with
  | .varint raw => .varint f.number raw
  | .fixed64 raw => .fixed64 f.number raw
  | .bytes raw => .bytes f.number raw
  | .fixed32 raw => .fixed32 f.number raw

def TagIn (piece digits : List UInt8) (tag : UInt64) : Prop :=
  digits <+: piece ∧ Varint.Spells digits tag

inductive VarintIn (piece : List UInt8) : List UInt8 → UInt64 → Prop
  | tag {digits : List UInt8} {tag : UInt64} : TagIn piece digits tag → VarintIn piece digits tag
  | behind {front digits : List UInt8} {tag v : UInt64} : TagIn piece front tag →
      tag.toNat % 8 = 0 ∨ tag.toNat % 8 = 2 → digits <+: piece.drop front.length →
      Varint.Spells digits v → VarintIn piece digits v

/-- No bits of the tag are lost, and no varint is longer than its value needs. -/
structure Canonical (piece : List UInt8) : Prop where
  tag_lt : ∀ digits tag, TagIn piece digits tag → tag.toNat < 2 ^ 35
  shortest : ∀ digits v, VarintIn piece digits v → digits = Varint.encode v

lemma encode_item (f : Field) : f.item.encode = f.encode := by
  rcases f with ⟨number, payload⟩
  cases payload <;> simp only [item, Item.encode]

lemma encode_eq (f : Field) : f.encode = encodeTag f.number f.wireType ++ f.payload.encode := by
  rcases f with ⟨number, payload⟩
  cases payload <;> rfl

lemma TagIn.unique {digits digits' body : List UInt8} {tag tag' : UInt64}
    (ht : Varint.Spells digits tag) (h : TagIn (digits ++ body) digits' tag') :
    digits' = digits ∧ tag' = tag := by
  obtain ⟨⟨rest, hrest⟩, ht'⟩ := h
  obtain ⟨hdigits, htag, -⟩ := ht'.append_inj ht hrest
  exact ⟨hdigits, htag⟩

lemma canonical_iff {digits body : List UInt8} {tag : UInt64} (ht : Varint.Spells digits tag) :
    Canonical (digits ++ body) ↔ (tag.toNat < 2 ^ 35 ∧ digits = Varint.encode tag) ∧
      (tag.toNat % 8 = 0 ∨ tag.toNat % 8 = 2 →
        ∀ digits' v, digits' <+: body → Varint.Spells digits' v → digits' = Varint.encode v) := by
  have htag : TagIn (digits ++ body) digits tag := ⟨List.prefix_append _ _, ht⟩
  constructor
  · intro h
    refine ⟨⟨h.tag_lt _ _ htag, h.shortest _ _ (.tag htag)⟩, ?_⟩
    intro hcode digits' v hprefix hv
    exact h.shortest _ _ (.behind htag hcode (by rwa [List.drop_left]) hv)
  · rintro ⟨⟨hlt, hdigits⟩, hbody⟩
    constructor
    · intro digits' tag' h
      obtain ⟨-, rfl⟩ := h.unique ht
      exact hlt
    · intro digits' v h
      cases h with
      | tag h =>
        obtain ⟨rfl, rfl⟩ := h.unique ht
        exact hdigits
      | behind h hcode hprefix hv =>
        obtain ⟨rfl, rfl⟩ := h.unique ht
        rw [List.drop_left] at hprefix
        exact hbody hcode _ _ hprefix hv

variable {piece : List UInt8} {f : Field}

lemma Encoding.fits (h : Encoding piece f) : f.Fits := by
  intro raw hraw
  cases h with
  | intro _ _ hp => exact (hraw ▸ hp).ofNat_length

lemma Encoding.length_encode_le (h : Encoding piece f) : f.encode.length ≤ piece.length := by
  cases h with
  | @intro digits body tag _ ht hnumber hp =>
    have hcode : f.wireType.code = tag.toNat % 8 := hp.code_eq
    have hword := toNat_tag f.number f.wireType
    have htag : (encodeTag f.number f.wireType).length ≤ digits.length :=
      ht.encodeNat_length_le (by omega)
    rw [encode_eq, List.length_append, List.length_append]
    exact Nat.add_le_add htag hp.length_encode_le

lemma Encoding.eq_encode_iff (h : Encoding piece f) : piece = f.encode ↔ Canonical piece := by
  cases h with
  | @intro digits body tag _ ht hnumber hp =>
    have hcode : f.wireType.code = tag.toNat % 8 := hp.code_eq
    rw [canonical_iff ht, ← hp.eq_encode_iff, ← encodeTag_eq_iff ht hnumber hcode, encode_eq]
    constructor
    · intro heq
      obtain ⟨hdigits, -, hbody⟩ := ht.append_inj (Varint.spells_encode _) heq
      exact ⟨hdigits, hbody⟩
    · rintro ⟨hdigits, hbody⟩
      rw [← hdigits, hbody]

end Field

namespace Message

def encode (m : Message) : List UInt8 :=
  Item.encodeAll (m.map Field.item)

lemma encode_eq (m : Message) : m.encode = m.flatMap Field.encode := by
  rw [encode]
  induction m with
  | nil => simp [Item.encodeAll]
  | cons f m ih => rw [List.map_cons, Item.encodeAll, Field.encode_item, ih, List.flatMap_cons]

variable {bytes : List UInt8} {m : Message} {pieces : List (List UInt8)}

lemma forall_fits (h : List.Forall₂ Field.Encoding pieces m) : ∀ f ∈ m, f.Fits := by
  induction h with
  | nil => simp
  | cons hp _ ih => simpa using ⟨hp.fits, ih⟩

lemma length_flatMap_encode_le (h : List.Forall₂ Field.Encoding pieces m) :
    (m.flatMap Field.encode).length ≤ pieces.flatten.length := by
  induction h with
  | nil => simp
  | cons hp _ ih =>
    rw [List.flatMap_cons, List.flatten_cons, List.length_append, List.length_append]
    exact Nat.add_le_add hp.length_encode_le ih

lemma eq_map_encode_iff (h : List.Forall₂ Field.Encoding pieces m) :
    pieces = m.map Field.encode ↔ ∀ piece ∈ pieces, Field.Canonical piece := by
  induction h with
  | nil => simp
  | cons hp _ ih => rw [List.map_cons, List.cons.injEq, hp.eq_encode_iff, ih, List.forall_mem_cons]

lemma forall₂_encode (hm : ∀ f ∈ m, f.Fits) :
    List.Forall₂ Field.Encoding (m.map Field.encode) m := by
  induction m with
  | nil => exact .nil
  | cons f m ih =>
    rw [List.forall_mem_cons] at hm
    exact .cons (Field.encoding_encode hm.1) (ih hm.2)

theorem encode_of_decode (hm : decode bytes = .ok m) :
    m.encode.length ≤ bytes.length ∧ decode m.encode = .ok m ∧
      (∀ m', decode m.encode = .ok m' → m'.encode = m.encode) ∧
      ∃ pieces, Layout bytes m pieces ∧
        (m.encode = bytes ↔ ∀ piece ∈ pieces, Field.Canonical piece) := by
  obtain ⟨pieces, hpieces⟩ := exists_layout hm
  have hfits := forall_fits hpieces.encodings
  have hagain : decode m.encode = .ok m := by
    rw [encode_eq, decode_flatMap_encode hfits]
  refine ⟨?_, hagain, ?_, pieces, hpieces, ?_⟩
  · rw [encode_eq, ← hpieces.flatten_eq]
    exact length_flatMap_encode_le hpieces.encodings
  · intro m' hm'
    rw [Except.ok.inj (hm'.symm.trans hagain)]
  · rw [← eq_map_encode_iff hpieces.encodings, encode_eq, ← hpieces.flatten_eq]
    constructor
    · intro heq
      exact pieces_unique hpieces.encodings (forall₂_encode hfits) heq.symm
    · rintro hmap
      rw [hmap]
      rfl

theorem encode_of_decode_overlong :
    decode [136, 0, 150, 129, 0] = .ok [⟨1, .varint 150⟩] ∧
      encode [⟨1, .varint 150⟩] = [8, 150, 1] ∧ decode [8, 150, 1] = .ok [⟨1, .varint 150⟩] ∧
      ∃ pieces, Layout [136, 0, 150, 129, 0] [⟨1, .varint 150⟩] pieces ∧
        ¬ ∀ piece ∈ pieces, Field.Canonical piece := by
  have hm : decode [136, 0, 150, 129, 0] = .ok [⟨1, .varint 150⟩] := by cbv
  have hencode : encode [⟨1, .varint 150⟩] = [8, 150, 1] := by cbv
  obtain ⟨-, hagain, -, pieces, hpieces, hsame⟩ := encode_of_decode hm
  rw [hencode] at hagain hsame
  exact ⟨hm, hencode, hagain, pieces, hpieces, fun hall => absurd (hsame.mpr hall) (by decide)⟩

end Message

end Telemetry.Wire
