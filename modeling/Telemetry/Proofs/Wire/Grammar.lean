import Mathlib.Data.List.Forall2
import Telemetry.Proofs.Wire.Varint
import Telemetry.Wire.Decode

/-! The wire format as a grammar. The decoder accepts exactly the concatenations of field encodings,
there is one way to cut a stream into them, and the message has one field for each of them. -/

namespace Telemetry.Wire

inductive Payload.Encoding : ℕ → List UInt8 → Payload → Prop
  | varint {digits : List UInt8} {v : UInt64} : Varint.Spells digits v →
      Encoding 0 digits (.varint v)
  | fixed64 {raw : List UInt8} {v : UInt64} : raw.length = 8 →
      v.toNat = positional 256 UInt8.toNat raw → Encoding 1 raw (.fixed64 v)
  | bytes {digits raw : List UInt8} {length : UInt64} : Varint.Spells digits length →
      raw.length = length.toNat → Encoding 2 (digits ++ raw) (.bytes raw)
  | fixed32 {raw : List UInt8} {v : UInt32} : raw.length = 4 →
      v.toNat = positional 256 UInt8.toNat raw → Encoding 5 raw (.fixed32 v)

inductive Field.Encoding : List UInt8 → Field → Prop
  | intro {digits body : List UInt8} {tag : UInt64} {f : Field} : Varint.Spells digits tag →
      f.number.toNat = tag.toNat / 8 % 2 ^ 32 →
      Payload.Encoding (tag.toNat % 8) body f.payload → Encoding (digits ++ body) f

lemma readVarint_sound {offset n : ℕ} {bytes rest : List UInt8} {v : UInt64}
    (h : readVarint offset bytes = .ok (v, n, rest)) :
    ∃ digits, bytes = digits ++ rest ∧ digits.length = n ∧ Varint.Spells digits v := by
  unfold readVarint at h
  split at h
  next r hr =>
    obtain rfl : r = (v, n, rest) := by simpa using h
    exact Varint.read_sound hr
  all_goals simp at h

lemma readVarint_append {digits : List UInt8} {v : UInt64} (hv : Varint.Spells digits v)
    (offset : ℕ) (rest : List UInt8) :
    readVarint offset (digits ++ rest) = .ok (v, digits.length, rest) := by
  rw [readVarint, Varint.read_append hv]

lemma splitExact?_sound {n : ℕ} {bytes raw rest : List UInt8}
    (h : splitExact? n bytes = some (raw, rest)) : bytes = raw ++ rest ∧ raw.length = n := by
  simp only [splitExact?, List.splitAt_eq] at h
  split at h
  · next hlen =>
    obtain ⟨rfl, rfl⟩ : bytes.take n = raw ∧ bytes.drop n = rest := by simpa using h
    exact ⟨(List.take_append_drop n bytes).symm, hlen⟩
  · simp at h

lemma splitExact?_append {n : ℕ} {raw : List UInt8} (hraw : raw.length = n) (rest : List UInt8) :
    splitExact? n (raw ++ rest) = some (raw, rest) := by
  subst hraw
  simp [splitExact?]

lemma uint64_littleEndian_eq_iff {raw : List UInt8} (hraw : raw.length = 8) (v : UInt64) :
    UInt64.ofNat (littleEndian raw) = v ↔ v.toNat = positional 256 UInt8.toNat raw := by
  have hlt : positional 256 UInt8.toNat raw < 2 ^ 64 := by
    simpa [hraw] using positional_lt UInt8.toNat_lt raw
  rw [← UInt64.toNat_inj, UInt64.toNat_ofNat', littleEndian, foldr_eq_positional,
    Nat.mod_eq_of_lt hlt, eq_comm]

lemma uint32_littleEndian_eq_iff {raw : List UInt8} (hraw : raw.length = 4) (v : UInt32) :
    UInt32.ofNat (littleEndian raw) = v ↔ v.toNat = positional 256 UInt8.toNat raw := by
  have hlt : positional 256 UInt8.toNat raw < 2 ^ 32 := by
    simpa [hraw] using positional_lt UInt8.toNat_lt raw
  rw [← UInt32.toNat_inj, UInt32.toNat_ofNat', littleEndian, foldr_eq_positional,
    Nat.mod_eq_of_lt hlt, eq_comm]

namespace Payload

lemma read_sound {field : UInt32} {offset n : ℕ} {bytes rest : List UInt8} {t : WireType}
    {p : Payload} (h : Payload.read field offset bytes t = .ok (p, n, rest)) :
    ∃ body, bytes = body ++ rest ∧ body.length = n ∧ Encoding t.code body p := by
  cases t with
  | varint =>
    simp only [Payload.read] at h
    split at h
    next v k r hr =>
      obtain ⟨rfl, rfl, rfl⟩ : Payload.varint v = p ∧ k = n ∧ r = rest := by simpa using h
      obtain ⟨digits, hb, hn, hv⟩ := readVarint_sound hr
      exact ⟨digits, hb, hn, .varint hv⟩
    next => simp at h
  | fixed64 =>
    simp only [Payload.read] at h
    split at h
    next raw r hr =>
      obtain ⟨rfl, rfl, rfl⟩ :
          fixed64 (UInt64.ofNat (littleEndian raw)) = p ∧ 8 = n ∧ r = rest := by simpa using h
      obtain ⟨hb, hraw⟩ := splitExact?_sound hr
      exact ⟨raw, hb, hraw, .fixed64 hraw ((uint64_littleEndian_eq_iff hraw _).mp rfl)⟩
    next => simp at h
  | bytes =>
    simp only [Payload.read] at h
    split at h
    next declared k r hr =>
      split at h
      next raw r' hs =>
        obtain ⟨rfl, rfl, rfl⟩ :
            Payload.bytes raw = p ∧ k + declared.toNat = n ∧ r' = rest := by simpa using h
        obtain ⟨digits, hb, hk, hv⟩ := readVarint_sound hr
        obtain ⟨rfl, hraw⟩ := splitExact?_sound hs
        exact ⟨digits ++ raw, by simp [hb], by simp [hk, hraw], .bytes hv hraw⟩
      next => simp at h
    next => simp at h
  | fixed32 =>
    simp only [Payload.read] at h
    split at h
    next raw r hr =>
      obtain ⟨rfl, rfl, rfl⟩ :
          fixed32 (UInt32.ofNat (littleEndian raw)) = p ∧ 4 = n ∧ r = rest := by simpa using h
      obtain ⟨hb, hraw⟩ := splitExact?_sound hr
      exact ⟨raw, hb, hraw, .fixed32 hraw ((uint32_littleEndian_eq_iff hraw _).mp rfl)⟩
    next => simp at h

lemma read_append {code : ℕ} {body : List UInt8} {p : Payload} (h : Encoding code body p)
    (field : UInt32) (offset : ℕ) (rest : List UInt8) :
    ∃ t, WireType.ofCode? code = some t ∧
      Payload.read field offset (body ++ rest) t = .ok (p, body.length, rest) := by
  cases h with
  | varint hv =>
    refine ⟨.varint, rfl, ?_⟩
    simp only [Payload.read, readVarint_append hv]
  | fixed64 hraw hv =>
    refine ⟨.fixed64, rfl, ?_⟩
    simp only [Payload.read, splitExact?_append hraw, (uint64_littleEndian_eq_iff hraw _).mpr hv,
      hraw]
  | bytes hv hraw =>
    refine ⟨.bytes, rfl, ?_⟩
    simp only [Payload.read, List.append_assoc, readVarint_append hv, splitExact?_append hraw,
      List.length_append, hraw]
  | fixed32 hraw hv =>
    refine ⟨.fixed32, rfl, ?_⟩
    simp only [Payload.read, splitExact?_append hraw, (uint32_littleEndian_eq_iff hraw _).mpr hv,
      hraw]

end Payload

lemma WireType.ofCode?_code (t : WireType) : ofCode? t.code = some t := by
  cases t <;> rfl

lemma WireType.code_of_ofCode? {code : ℕ} {t : WireType} (h : ofCode? code = some t) :
    t.code = code := by
  unfold ofCode? at h
  split at h
  all_goals cases h
  all_goals rfl

namespace Field

lemma toNat_code (tag : UInt64) : (tag &&& 7).toNat = tag.toNat % 8 := by
  rw [UInt64.toNat_and]
  exact Nat.and_two_pow_sub_one_eq_mod tag.toNat 3

lemma toNat_number (tag : UInt64) : (tag >>> 3).toUInt32.toNat = tag.toNat / 8 % 2 ^ 32 := by
  rw [UInt64.toNat_toUInt32, UInt64.toNat_shiftRight, Nat.shiftRight_eq_div_pow]
  rfl

lemma number_eq {tag : UInt64} {number : UInt32} (h : number.toNat = tag.toNat / 8 % 2 ^ 32) :
    (tag >>> 3).toUInt32 = number := by
  rw [← UInt32.toNat_inj, toNat_number, h]

lemma Encoding.length_pos {piece : List UInt8} {f : Field} (h : Encoding piece f) :
    0 < piece.length := by
  cases h with
  | intro ht _ _ => exact List.length_append ▸ Nat.add_pos_left ht.length_pos _

lemma read_sound {offset n : ℕ} {bytes rest : List UInt8} {f : Field}
    (h : Field.read offset bytes = .ok (f, n, rest)) :
    ∃ piece, bytes = piece ++ rest ∧ piece.length = n ∧ Encoding piece f := by
  unfold Field.read at h
  split at h
  next => simp at h
  next tag k r hr =>
    obtain ⟨digits, hb, hk, ht⟩ := readVarint_sound hr
    dsimp only at h
    split at h
    next => simp at h
    next t hcode =>
      split at h
      next p l r' hp =>
        obtain ⟨body, rfl, hl, he⟩ := Payload.read_sound hp
        obtain ⟨rfl, rfl, rfl⟩ :
            Field.mk (tag >>> 3).toUInt32 p = f ∧ k + l = n ∧ r' = rest := by simpa using h
        rw [WireType.code_of_ofCode? hcode, toNat_code] at he
        exact ⟨digits ++ body, by simp [hb], by simp [hk, hl], ht, toNat_number tag, he⟩
      next => simp at h

lemma read_append {piece : List UInt8} {f : Field} (h : Encoding piece f) (offset : ℕ)
    (rest : List UInt8) : Field.read offset (piece ++ rest) = .ok (f, piece.length, rest) := by
  cases h with
  | @intro digits body tag _ ht hnumber hp =>
    obtain ⟨t, hcode, hread⟩ :=
      Payload.read_append hp f.number (offset + digits.length) rest
    simp only [Field.read, List.append_assoc, readVarint_append ht, toNat_code, hcode,
      number_eq hnumber, hread, List.length_append]

lemma Encoding.append_inj {p p' r r' : List UInt8} {f f' : Field} (h : Encoding p f)
    (h' : Encoding p' f') (he : p ++ r = p' ++ r') : p = p' ∧ f = f' ∧ r = r' := by
  have hread := read_append h 0 r
  rw [he, read_append h' 0 r'] at hread
  -- Both read off the same stream, and the reader takes exactly one encoding.
  obtain ⟨rfl, hlen, rfl⟩ : f' = f ∧ p'.length = p.length ∧ r' = r := by simpa using hread
  exact ⟨(List.append_inj he hlen.symm).1, rfl, rfl⟩

end Field

namespace Message

lemma decodeFrom_eq_ok_iff (offset : ℕ) (seen : List Field) (bytes : List UInt8) (m : Message) :
    decodeFrom offset seen bytes = .ok m ↔ ∃ pieces fields, pieces.flatten = bytes ∧
      List.Forall₂ Field.Encoding pieces fields ∧ m = seen.reverse ++ fields := by
  fun_induction decodeFrom offset seen bytes with
  | case1 offset seen bytes hempty =>
    obtain rfl : bytes = [] := by simpa using hempty
    constructor
    · intro h
      exact ⟨[], [], rfl, .nil, by simpa [eq_comm] using h⟩
    · rintro ⟨pieces, fields, hflat, hf, rfl⟩
      cases hf with
      | nil => simp
      | cons he _ => exact absurd he.length_pos (by simp_all)
  | case2 offset seen bytes hempty f n rest hread ih =>
    obtain ⟨piece, rfl, -, he⟩ := Field.read_sound hread
    rw [ih]
    constructor
    · rintro ⟨pieces, fields, rfl, hf, rfl⟩
      exact ⟨piece :: pieces, f :: fields, rfl, .cons he hf, by simp⟩
    · rintro ⟨pieces, fields, hflat, hf, rfl⟩
      cases hf with
      | nil => simp_all
      | cons he' hf =>
        obtain ⟨-, rfl, rfl⟩ := he'.append_inj he hflat
        exact ⟨_, _, rfl, hf, by simp⟩
  | case3 offset seen bytes hempty e hread =>
    refine ⟨fun h => by simp at h, ?_⟩
    rintro ⟨pieces, fields, rfl, hf, -⟩
    cases hf with
    | nil => simp at hempty
    | cons he hf =>
      rw [List.flatten_cons, Field.read_append he] at hread
      simp at hread

lemma decode_eq_ok_iff (bytes : List UInt8) (m : Message) :
    decode bytes = .ok m ↔
      ∃ pieces, pieces.flatten = bytes ∧ List.Forall₂ Field.Encoding pieces m := by
  simp [decode, decodeFrom_eq_ok_iff]

lemma pieces_unique {pieces pieces' : List (List UInt8)} {m m' : Message}
    (h : List.Forall₂ Field.Encoding pieces m) (h' : List.Forall₂ Field.Encoding pieces' m')
    (he : pieces.flatten = pieces'.flatten) : pieces = pieces' := by
  induction h generalizing pieces' m' with
  | nil =>
    cases h' with
    | nil => rfl
    | cons hp _ => exact absurd hp.length_pos (by simp_all)
  | cons hp _ ih =>
    cases h' with
    | nil => exact absurd hp.length_pos (by simp_all)
    | cons hp' h' =>
      obtain ⟨rfl, -, hrest⟩ := hp.append_inj hp' he
      rw [ih h' hrest]

lemma forall₂_encoding_iff (pieces : List (List UInt8)) :
    (∃ m, List.Forall₂ Field.Encoding pieces m) ↔ ∀ p ∈ pieces, ∃ f, Field.Encoding p f := by
  constructor
  · rintro ⟨m, h⟩
    induction h with
    | nil => simp
    | cons hp _ ih => simpa using ⟨⟨_, hp⟩, ih⟩
  · intro h
    induction pieces with
    | nil => exact ⟨[], .nil⟩
    | cons p pieces ih =>
      obtain ⟨f, hf⟩ := h p (by simp)
      obtain ⟨m, hm⟩ := ih fun q hq => h q (by simp [hq])
      exact ⟨f :: m, .cons hf hm⟩

theorem decode_iff_encodings (bytes : List UInt8) :
    ((∃ m, decode bytes = .ok m) ↔
        ∃ pieces : List (List UInt8), pieces.flatten = bytes ∧
          ∀ p ∈ pieces, ∃ f, Field.Encoding p f) ∧
      (∀ m, decode bytes = .ok m ↔
        ∃ pieces, pieces.flatten = bytes ∧ List.Forall₂ Field.Encoding pieces m) ∧
      ∀ pieces pieces' : List (List UInt8), pieces.flatten = bytes → pieces'.flatten = bytes →
        (∀ p ∈ pieces, ∃ f, Field.Encoding p f) → (∀ p ∈ pieces', ∃ f, Field.Encoding p f) →
          pieces = pieces' := by
  refine ⟨?_, decode_eq_ok_iff bytes, ?_⟩
  · simp only [decode_eq_ok_iff, ← forall₂_encoding_iff]
    constructor
    · rintro ⟨m, pieces, hflat, hm⟩
      exact ⟨pieces, hflat, m, hm⟩
    · rintro ⟨pieces, hflat, m, hm⟩
      exact ⟨m, pieces, hflat, hm⟩
  · intro pieces pieces' hflat hflat' h h'
    obtain ⟨m, hm⟩ := (forall₂_encoding_iff pieces).mpr h
    obtain ⟨m', hm'⟩ := (forall₂_encoding_iff pieces').mpr h'
    exact pieces_unique hm hm' (hflat.trans hflat'.symm)

end Message

end Telemetry.Wire
