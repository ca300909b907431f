import Mathlib.Data.Int.ModEq
import Mathlib.Tactic.Lemma
import Telemetry.Wire.Varint

namespace Telemetry.Wire.Zigzag

def code (i : Int) : Int :=
  if 0 ≤ i then 2 * i else -2 * i - 1

def uncode (n : Nat) : Int :=
  if n % 2 = 0 then n / 2 else -(n / 2) - 1

lemma sshiftRight_last {w : ℕ} (x : BitVec (w + 1)) :
    x.sshiftRight w = if x.msb then BitVec.allOnes (w + 1) else 0#(w + 1) := by
  have hzero : ∀ y : BitVec (w + 1), y.msb = false → y >>> w = 0#(w + 1) := by
    intro y hy
    have hlt := BitVec.msb_eq_false_iff_two_mul_lt.mp hy
    rw [Nat.pow_succ] at hlt
    apply BitVec.eq_of_toNat_eq
    rw [BitVec.toNat_ushiftRight, Nat.shiftRight_eq_div_pow, Nat.div_eq_of_lt (by omega)]
    rfl
  cases hx : x.msb with
  | false => simp [BitVec.sshiftRight_eq_of_msb_false hx, hzero x hx]
  | true =>
    have hnot : (~~~x).msb = false := by simp [hx]
    simp [BitVec.sshiftRight_eq_of_msb_true hx, hzero _ hnot]

lemma toNat_zigzag {w : ℕ} (x : BitVec (w + 1)) :
    (((x <<< 1) ^^^ x.sshiftRight w).toNat : Int) = code x.toInt := by
  have hx := x.isLt
  have hdouble : (x <<< 1).toNat = 2 * x.toNat % 2 ^ (w + 1) := by
    rw [BitVec.toNat_shiftLeft, Nat.shiftLeft_eq, Nat.mul_comm]
  rw [sshiftRight_last, BitVec.toInt_eq_msb_cond]
  cases hmsb : x.msb with
  | false =>
    have hsmall := BitVec.msb_eq_false_iff_two_mul_lt.mp hmsb
    rw [Nat.mod_eq_of_lt hsmall] at hdouble
    simp [code, hdouble]
  | true =>
    have hlarge := BitVec.msb_eq_true_iff_two_mul_ge.mp hmsb
    rw [Nat.mod_eq_sub_mod hlarge, Nat.mod_eq_of_lt (by omega)] at hdouble
    have hneg : ¬ (0 : Int) ≤ x.toNat - (2 ^ (w + 1) : ℕ) := by omega
    simp only [if_true, BitVec.xor_allOnes, BitVec.toNat_not, hdouble, code, if_neg hneg]
    omega

lemma toNat_encode64 (v : Int64) : ((encode64 v).toNat : Int) = code v.toInt :=
  toNat_zigzag v.toBitVec

lemma toNat_encode32 (v : Int32) : ((encode32 v).toNat : Int) = code v.toInt :=
  toNat_zigzag v.toBitVec

lemma toInt_decode64 (raw : UInt64) : (decode64 raw).toInt = uncode raw.toNat := by
  have hraw := raw.toNat_lt
  have hbits : (decode64 raw).toBitVec =
      (raw.toBitVec >>> 1) ^^^ (0#64 - (raw.toBitVec &&& 1#64)) := rfl
  have hhalf : (raw.toBitVec >>> 1).toNat = raw.toNat / 2 := by
    rw [BitVec.toNat_ushiftRight, Nat.shiftRight_eq_div_pow]
    rfl
  have hlow : (raw.toBitVec &&& 1#64).toNat = raw.toNat % 2 := by
    rw [BitVec.toNat_and]
    exact Nat.and_one_is_mod _
  rw [← Int64.toInt_toBitVec, hbits]
  rcases Nat.mod_two_eq_zero_or_one raw.toNat with heven | hodd
  · have hzero : raw.toBitVec &&& 1#64 = 0#64 := BitVec.eq_of_toNat_eq (hlow.trans heven)
    rw [hzero, BitVec.sub_zero, BitVec.xor_zero, BitVec.toInt_eq_toNat_cond, hhalf,
      if_pos (by omega), uncode, if_pos heven]
    rfl
  · have hone : raw.toBitVec &&& 1#64 = 1#64 := BitVec.eq_of_toNat_eq (hlow.trans hodd)
    have hones : 0#64 - 1#64 = BitVec.allOnes 64 := by decide
    rw [hone, hones, BitVec.xor_allOnes, BitVec.toInt_eq_toNat_cond, BitVec.toNat_not, hhalf,
      if_neg (by omega), uncode, if_neg (by omega)]
    omega

lemma uncode_code {i : Int} {n : ℕ} (h : (n : Int) = code i) : uncode n = i := by
  unfold code at h
  unfold uncode
  split at h <;> split <;> omega

lemma decode64_encode64 (v : Int64) : decode64 (encode64 v) = v := by
  rw [← Int64.toInt_inj, toInt_decode64, uncode_code (toNat_encode64 v)]

lemma decode32_encode32 (v : Int32) : decode32 (encode32 v) = v := by
  have hlo := v.le_toInt
  have hhi := v.toInt_lt
  rw [← Int32.toInt_inj, decode32, Int64.toInt_toInt32, toInt_decode64,
    uncode_code (toNat_encode32 v)]
  apply Int.bmod_eq_of_le <;> omega

lemma code_uncode (n : ℕ) : code (uncode n) = n := by
  unfold uncode code
  split <;> split <;> omega

lemma encode64_decode64 (raw : UInt64) : encode64 (decode64 raw) = raw := by
  have hcode := toNat_encode64 (decode64 raw)
  rw [toInt_decode64, code_uncode] at hcode
  exact UInt64.toNat_inj.mp (Int.ofNat_inj.mp hcode)

lemma encode32_eq (v : Int32) : encode32 v = encode64 v.toInt64 := by
  have hwide := toNat_encode64 v.toInt64
  rw [Int32.toInt_toInt64, ← toNat_encode32] at hwide
  exact UInt64.toNat_inj.mp (Int.ofNat_inj.mp hwide.symm)

lemma toNat_encode32_lt (v : Int32) : (encode32 v).toNat < 2 ^ 32 := by
  have hcode := toNat_encode32 v
  have hlo := v.le_toInt
  have hhi := v.toInt_lt
  unfold code at hcode
  split at hcode <;> omega

lemma toInt_decode32_modEq (raw : UInt64) :
    (decode32 raw).toInt ≡ (decode64 raw).toInt [ZMOD 2 ^ 32] := by
  rw [decode32, Int64.toInt_toInt32]
  exact Int.bmod_emod

theorem encode_bijective :
    (∀ v : Int64, ((encode64 v).toNat : Int) =
      if 0 ≤ v.toInt then 2 * v.toInt else -2 * v.toInt - 1) ∧
    (∀ v : Int64, decode64 (encode64 v) = v) ∧
    (∀ raw : UInt64, encode64 (decode64 raw) = raw) ∧
    (∀ v : Int32, encode32 v = encode64 v.toInt64 ∧ (encode32 v).toNat < 2 ^ 32 ∧
      decode32 (encode32 v) = v) ∧
    ∀ raw : UInt64, (decode32 raw).toInt ≡ (decode64 raw).toInt [ZMOD 2 ^ 32] :=
  ⟨toNat_encode64, decode64_encode64, encode64_decode64,
    fun v => ⟨encode32_eq v, toNat_encode32_lt v, decode32_encode32 v⟩, toInt_decode32_modEq⟩

example : encode64 (-0x8000000000000000) = 0xFFFFFFFFFFFFFFFF ∧
    encode32 (-0x80000000) = 0xFFFFFFFF := by
  decide

end Telemetry.Wire.Zigzag
