import Telemetry.Proofs.Wire.Grammar
import Telemetry.Wire.Item

namespace Telemetry.Wire

lemma toNat_byte {n : ℕ} (h : n < 256) : (UInt8.ofNat n).toNat = n :=
  UInt8.toNat_ofNat_of_lt' h

lemma toInt32_extended (x : Int32) : x.toInt64.toUInt64.toUInt32.toInt32 = x := by
  have h := congrArg Int32.toBitVec (Int32.toInt32_toInt64 x)
  rw [Int64.toBitVec_toInt32, BitVec.signExtend_eq_setWidth_of_le _ (by decide)] at h
  exact Int32.toBitVec_inj.mp (by simpa using h)

namespace Varint

lemma terminated_encodeNat (n : ℕ) : Terminated (encodeNat n) := by
  fun_induction encodeNat n with
  | case1 n hn =>
    have hb : (UInt8.ofNat n).toNat = n := toNat_byte (by omega)
    exact (terminated_cons _ _).mpr (Or.inl ⟨by rwa [hb], rfl⟩)
  | case2 n hn ih =>
    have hb : (UInt8.ofNat (n % 128 + 128)).toNat = n % 128 + 128 := toNat_byte (by omega)
    exact (terminated_cons _ _).mpr (Or.inr ⟨by omega, ih⟩)

lemma positional_encodeNat (n : ℕ) :
    positional 128 (fun b => b.toNat % 128) (encodeNat n) = n := by
  fun_induction encodeNat n with
  | case1 n hn =>
    have hb : (UInt8.ofNat n).toNat = n := toNat_byte (by omega)
    rw [positional_cons, hb, Nat.mod_eq_of_lt hn]
    rfl
  | case2 n hn ih =>
    have hb : (UInt8.ofNat (n % 128 + 128)).toNat = n % 128 + 128 := toNat_byte (by omega)
    rw [positional_cons, hb, ih]
    omega

lemma length_encodeNat_le {n k : ℕ} (h : n < 128 ^ (k + 1)) : (encodeNat n).length ≤ k + 1 := by
  induction k generalizing n with
  | zero =>
    have hn : n < 128 := by simpa using h
    rw [encodeNat, if_pos hn]
    simp
  | succ k ih =>
    rw [encodeNat]
    split
    · simp
    · have hdiv : n / 128 < 128 ^ (k + 1) := Nat.div_lt_of_lt_mul (by rwa [← pow_succ'])
      simpa using ih hdiv

lemma spells_encode (v : UInt64) : Spells (encode v) v where
  length_le := by
    have hv : v.toNat < 128 ^ (9 + 1) := v.toNat_lt.trans (by decide)
    exact length_encodeNat_le hv
  terminated := terminated_encodeNat v.toNat
  toNat_eq := by rw [encode, positional_encodeNat, Nat.mod_eq_of_lt v.toNat_lt]

lemma Spells.encodeNat_length_le {digits : List UInt8} {v : UInt64} (h : Spells digits v) {n : ℕ}
    (hn : n ≤ v.toNat) : (encodeNat n).length ≤ digits.length := by
  obtain ⟨k, hk⟩ : ∃ k, digits.length = k + 1 := Nat.exists_eq_succ_of_ne_zero h.length_pos.ne'
  have hlt := hn.trans_lt h.toNat_lt
  rw [hk] at hlt ⊢
  exact length_encodeNat_le hlt

end Varint

lemma length_littleEndianBytes (count n : ℕ) : (littleEndianBytes count n).length = count := by
  induction count generalizing n with
  | zero => rfl
  | succ count ih => rw [littleEndianBytes, List.length_cons, ih]

lemma positional_littleEndianBytes (count n : ℕ) :
    positional 256 UInt8.toNat (littleEndianBytes count n) = n % 256 ^ count := by
  induction count generalizing n with
  | zero => simp [littleEndianBytes, positional, Nat.mod_one]
  | succ count ih =>
    have hb : (UInt8.ofNat (n % 256)).toNat = n % 256 := toNat_byte (by omega)
    rw [littleEndianBytes, positional_cons, hb, ih, pow_succ', Nat.mod_mul]

lemma littleEndianBytes_positional (raw : List UInt8) :
    littleEndianBytes raw.length (positional 256 UInt8.toNat raw) = raw := by
  induction raw with
  | nil => rfl
  | cons b raw ih =>
    have hb := b.toNat_lt
    have hlow : (b.toNat + 256 * positional 256 UInt8.toNat raw) % 256 = b.toNat := by omega
    have hhigh : (b.toNat + 256 * positional 256 UInt8.toNat raw) / 256 =
        positional 256 UInt8.toNat raw := by omega
    rw [List.length_cons, littleEndianBytes, positional_cons, hlow, hhigh, ih, UInt8.ofNat_toNat]

lemma toNat_tag (number : UInt32) (t : WireType) :
    ((number.toUInt64 <<< 3) ||| UInt64.ofNat t.code).toNat = 8 * number.toNat + t.code := by
  have hcode : t.code < 2 ^ 3 := by cases t <;> decide
  have hn := number.toNat_lt
  have hor := Nat.two_pow_add_eq_or_of_lt hcode number.toNat
  have hshift : (number.toUInt64 <<< 3).toNat = 2 ^ 3 * number.toNat := by
    rw [UInt64.toNat_shiftLeft, UInt32.toNat_toUInt64, Nat.shiftLeft_eq, Nat.mul_comm]
    exact Nat.mod_eq_of_lt (by simp; omega)
  have hword : (UInt64.ofNat t.code).toNat = t.code :=
    UInt64.toNat_ofNat_of_lt' (hcode.trans (by decide))
  rw [UInt64.toNat_or, hshift, hword, ← hor]

namespace Field

def Fits (f : Field) : Prop :=
  ∀ raw, f.payload = .bytes raw → raw.length < 2 ^ 64

lemma encoding_encode {f : Field} (hf : f.Fits) : Encoding f.encode f := by
  have hcode : f.wireType.code < 8 := by cases f.wireType <;> decide
  have htag := toNat_tag f.number f.wireType
  have hnumber : f.number.toNat =
      ((f.number.toUInt64 <<< 3) ||| UInt64.ofNat f.wireType.code).toNat / 8 % 2 ^ 32 := by
    have hn := f.number.toNat_lt
    omega
  refine .intro (Varint.spells_encode _) hnumber ?_
  have hmod : ((f.number.toUInt64 <<< 3) ||| UInt64.ofNat f.wireType.code).toNat % 8 =
      f.wireType.code := by omega
  rw [hmod]
  rcases f with ⟨number, payload⟩
  cases payload with
  | varint raw => exact .varint (Varint.spells_encode raw)
  | fixed64 raw =>
    have hraw : raw.toNat < 256 ^ 8 := raw.toNat_lt
    refine .fixed64 (length_littleEndianBytes 8 raw.toNat) ?_
    rw [positional_littleEndianBytes, Nat.mod_eq_of_lt hraw]
  | bytes raw =>
    refine .bytes (Varint.spells_encode _) ?_
    exact (UInt64.toNat_ofNat_of_lt' (hf raw rfl)).symm
  | fixed32 raw =>
    have hraw : raw.toNat < 256 ^ 4 := raw.toNat_lt
    refine .fixed32 (length_littleEndianBytes 4 raw.toNat) ?_
    rw [positional_littleEndianBytes, Nat.mod_eq_of_lt hraw]

lemma length_encode_le {f : Field} (hf : ∀ raw, f.payload ≠ .bytes raw) : f.encode.length ≤ 20 := by
  have htag : (encodeTag f.number f.wireType).length ≤ 10 := (Varint.spells_encode _).length_le
  rcases f with ⟨number, payload⟩
  cases payload with
  | varint raw =>
    have hraw := (Varint.spells_encode raw).length_le
    rw [encode, List.length_append]
    exact Nat.add_le_add htag hraw
  | fixed64 raw =>
    have hraw := (length_littleEndianBytes 8 raw.toNat).le
    rw [encode, List.length_append]
    exact (Nat.add_le_add htag hraw).trans (by decide)
  | bytes raw => exact absurd rfl (hf raw)
  | fixed32 raw =>
    have hraw := (length_littleEndianBytes 4 raw.toNat).le
    rw [encode, List.length_append]
    exact (Nat.add_le_add htag hraw).trans (by decide)

end Field

namespace Message

lemma decode_flatMap_encode {m : Message} (hm : ∀ f ∈ m, f.Fits) :
    decode (m.flatMap Field.encode) = .ok m := by
  rw [decode_eq_ok_iff]
  refine ⟨m.map Field.encode, rfl, ?_⟩
  induction m with
  | nil => exact .nil
  | cons f m ih =>
    have hrest : ∀ g ∈ m, g.Fits := fun g hg => hm g (by simp [hg])
    exact .cons (Field.encoding_encode (hm f (by simp))) (ih hrest)

end Message

end Telemetry.Wire
