import Telemetry.Number.Scan
import Telemetry.Proofs.Number.Closeness

namespace Telemetry.Number

def Fits (n : ℕ) : Prop :=
  ∃ m b : ℕ, n = m * 2 ^ b ∧ m < 2 ^ 53

lemma fits_ten_pow {k : ℕ} (hk : k ≤ 22) : Fits (10 ^ k) := by
  refine ⟨5 ^ k, k, by rw [← Nat.mul_pow], ?_⟩
  exact (Nat.pow_le_pow_right (by decide) hk).trans_lt (by decide)

namespace Format

variable {f : Format} {p q k : ℕ} {r : ℚ}

lemma meaning_of_lt {bits : ℕ} (h : bits % f.signBit < f.infinity) : f.meaning bits =
    .finite (bits / f.signBit % 2 == 1) (f.units (bits % f.signBit))
      (f.unitExponent (bits % f.signBit)) := by
  simp only [meaning]
  generalize bits % f.signBit = p at *
  have hfraction : 1 <<< f.fraction = 2 ^ f.fraction := Nat.one_shiftLeft _
  have hdiv := Nat.div_add_mod p (2 ^ f.fraction)
  rw [if_neg h.ne, if_neg h.not_gt, hfraction, Nat.shiftRight_eq_div_pow, units, unitExponent,
    binade]
  rcases Nat.eq_zero_or_pos (p / 2 ^ f.fraction) with hzero | hpos
  · rw [hzero, Nat.mul_zero, Nat.zero_add] at hdiv
    rw [if_pos hzero, hzero, hdiv, Nat.zero_sub, Nat.zero_mul, Nat.sub_zero, Nat.cast_zero,
      add_zero]
  · have hone := Nat.le_mul_of_pos_right (2 ^ f.fraction) hpos
    rw [if_neg hpos.ne', Nat.sub_mul, Nat.mul_comm (p / _), Nat.cast_sub hpos]
    congr 1
    · omega
    · push_cast
      ring

lemma finiteParts_of_lt (h : p < double.infinity) :
    finiteParts p = (double.units p, double.unitExponent p) := by
  have hlt : p < double.signBit := h.trans (by decide)
  have hmod : p % double.signBit = p := Nat.mod_eq_of_lt hlt
  have hmeaning : double.meaning p = _ := meaning_of_lt (by rwa [hmod])
  rw [finiteParts, hmeaning, hmod]

lemma double_parity : double.fraction ≠ 0 := by
  decide

def largest : ℚ :=
  double.value (double.infinity - 1)

lemma largest_eq : largest = (2 ^ 53 - 1 : ℕ) * 2 ^ (971 : ℤ) := by
  have hpattern : double.infinity - 1 = 2045 * 2 ^ double.fraction + (2 ^ 53 - 1) := by decide
  have hexponent : double.minExponent + (2045 : ℕ) = 971 := by decide
  rw [largest, hpattern, value_add (.inr (by decide)) (by decide), hexponent]

lemma two_zpow_1024 : (2 : ℚ) ^ (1024 : ℤ) = 2 ^ 53 * 2 ^ (971 : ℤ) := by
  rw [← zpow_natCast, ← zpow_add₀ two_ne_zero]
  rfl

lemma largest_lt : largest < 2 ^ (1024 : ℤ) := by
  rw [largest_eq, two_zpow_1024]
  exact mul_lt_mul_of_pos_right (by norm_num) (zpow_pos two_pos _)

lemma le_largest (h : r ≤ 5 / 8 * 2 ^ (1024 : ℤ)) : r ≤ largest := by
  refine h.trans ?_
  rw [largest_eq, two_zpow_1024, ← mul_assoc]
  exact mul_le_mul_of_nonneg_right (by norm_num) (zpow_pos two_pos _).le

lemma Nearest.lt_infinity (h : double.Nearest r p) (hr : r ≤ largest) : p < double.infinity := by
  have hle : p ≤ double.infinity - 1 := h.mono (nearest_value _) hr
  have hpos : 0 < double.infinity := by decide
  omega

lemma ofScaled_spec (m : ℕ) (e : ℤ) : ∃ p, double.Nearest (m * 2 ^ e) p ∧
    double.ofScaled m e = min double.infinity p := by
  have hden : 0 < 1 <<< (-e).toNat := by
    rw [Nat.one_shiftLeft]
    positivity
  obtain ⟨p, hp, hmin⟩ := nearest_spec double_parity (m <<< e.toNat) hden
  have hratio := shiftLeft_div_shiftLeft m 1 (-e)
  rw [neg_neg, Nat.cast_one, div_one, zpow_neg, div_inv_eq_mul] at hratio
  exact ⟨p, hratio ▸ hp, hmin⟩

lemma Nearest.eq_of_fits {n : ℕ} (h : double.Nearest n p) (hn : Fits n) : double.value p = n := by
  obtain ⟨m, b, hmb, hm⟩ := hn
  obtain ⟨q, hq⟩ := exists_value_eq (f := double) hm (b + 1074)
  have hexponent : double.minExponent + (b + 1074 : ℕ) = b := by
    have hmin : double.minExponent = -1074 := by decide
    omega
  have hvalue : double.value q = n := by
    rw [hq, hexponent, hmb]
    push_cast
    rfl
  rw [← hvalue] at h ⊢
  rw [h.unique (nearest_value q)]

lemma nearest_nat {n : ℕ} (hpos : 0 < n) (hn : (n : ℚ) ≤ largest) :
    ∃ p < double.infinity, double.nearest n 1 = p ∧ Close 1 n (double.value p) ∧
      (Fits n → double.value p = n) := by
  obtain ⟨p, hp, hmin⟩ := nearest_spec double_parity n one_pos
  rw [Nat.cast_one, div_one] at hp
  have hlt := hp.lt_infinity hn
  have hone : (2 : ℚ) ^ (-1022 : ℤ) ≤ n := by
    have hle : (1 : ℚ) ≤ n := by exact_mod_cast hpos
    exact (zpow_le_one_of_nonpos₀ one_le_two (by decide)).trans hle
  exact ⟨p, hlt, hmin.trans (min_eq_right hlt.le), hp.close hone, hp.eq_of_fits⟩

end Format

open Format

variable {p k : ℕ}

section Bounds

lemma two_zpow_mul (i j : ℕ) : (2 : ℚ) ^ (i : ℤ) * 2 ^ j = (2 ^ (i + j) : ℕ) := by
  rw [zpow_natCast, ← pow_add, Nat.cast_pow, Nat.cast_ofNat]

lemma le_of_ten_pow_lt {m n : ℕ} (h : (10 : ℚ) ^ k < n) (hm : n ≤ 10 ^ (m + 1)) : k ≤ m := by
  have hpow : 10 ^ k < 10 ^ (m + 1) := lt_of_lt_of_le (by exact_mod_cast h) hm
  exact Nat.lt_succ_iff.mp ((Nat.pow_lt_pow_iff_right (by decide)).mp hpow)

lemma ten_pow_le_of_le_div {j : ℤ} {n : ℚ} (h : 2 ^ (-j) ≤ n / 10 ^ k) : 10 ^ k ≤ 2 ^ j * n := by
  rwa [le_div_iff₀ (by positivity), zpow_neg, inv_mul_le_iff₀ (zpow_pos two_pos _)] at h

lemma ten_pow_lt_of_le_div {j : ℕ} {n : ℚ} (hn : n < 2 ^ 64) (h : 2 ^ (-(j : ℤ)) ≤ n / 10 ^ k) :
    (10 : ℚ) ^ k < (2 ^ (j + 64) : ℕ) := by
  rw [← two_zpow_mul]
  exact (ten_pow_le_of_le_div h).trans_lt (mul_lt_mul_of_pos_left hn (zpow_pos two_pos _))

lemma pow_maxPower_lt : (10 : ℚ) ^ maxPower < 5 / 8 * 2 ^ (1024 : ℤ) := by
  have hnat : 8 * 10 ^ maxPower < 5 * 2 ^ (1024 + 0) := by decide +kernel
  have hrat : (8 * 10 ^ maxPower : ℚ) < 5 * (2 ^ (1024 + 0) : ℕ) := by exact_mod_cast hnat
  rw [← two_zpow_mul, pow_zero, mul_one, Nat.cast_ofNat] at hrat
  linarith

lemma lt_pow_maxPower : 11 / 20 * (2 : ℚ) ^ (1024 : ℤ) < 10 ^ maxPower := by
  have hnat : 11 * 2 ^ (1024 + 0) < 20 * 10 ^ maxPower := by decide +kernel
  have hrat : (11 * (2 ^ (1024 + 0) : ℕ) : ℚ) < 20 * 10 ^ maxPower := by exact_mod_cast hnat
  rw [← two_zpow_mul, pow_zero, mul_one, Nat.cast_ofNat] at hrat
  linarith

end Bounds

lemma nearest_power (hk : k ≤ maxPower) :
    ∃ p < double.infinity, double.nearest (Nat.pow 10 k) 1 = p ∧
      Close 1 (10 ^ k) (double.value p) ∧ (k ≤ 22 → double.value p = 10 ^ k) := by
  have hcast : ((10 ^ k : ℕ) : ℚ) = 10 ^ k := by
    rw [Nat.cast_pow, Nat.cast_ofNat]
  have hle : ((10 ^ k : ℕ) : ℚ) ≤ largest := by
    rw [hcast]
    exact le_largest ((pow_le_pow_right₀ (by norm_num) hk).trans pow_maxPower_lt.le)
  obtain ⟨p, hp, hnearest, hclose, hexact⟩ := nearest_nat (Nat.pow_pos (by decide)) hle
  rw [hcast] at hclose hexact
  exact ⟨p, hp, hnearest, hclose, fun hshort => hexact (fits_ten_pow hshort)⟩

lemma timesPower_spec (hp : p < double.infinity) (hk : k ≤ maxPower) :
    ∃ w q, Close 1 (10 ^ k) w ∧ (k ≤ 22 → w = 10 ^ k) ∧
      double.Nearest (double.value p * w) q ∧ timesPower p k = min double.infinity q := by
  obtain ⟨power, hpower, hnearest, hclose, hexact⟩ := nearest_power hk
  obtain ⟨q, hq, hmin⟩ := ofScaled_spec (double.units p * double.units power)
    (double.unitExponent p + double.unitExponent power)
  have hvalue : ((double.units p * double.units power : ℕ) : ℚ) *
      2 ^ (double.unitExponent p + double.unitExponent power) =
        double.value p * double.value power := by
    rw [zpow_add₀ two_ne_zero, value, value, unit, unit, Nat.cast_mul, mul_mul_mul_comm]
  refine ⟨_, q, hclose, hexact, hvalue ▸ hq, ?_⟩
  rw [timesPower, finiteParts_of_lt hp, hnearest, finiteParts_of_lt hpower]
  exact hmin

lemma dividePower_spec (hp : p < double.infinity) (hk : k ≤ maxPower) :
    ∃ w q, Close 1 (10 ^ k) w ∧ (k ≤ 22 → w = 10 ^ k) ∧
      double.Nearest (double.value p / w) q ∧ dividePower p k = min double.infinity q := by
  obtain ⟨power, hpower, hnearest, hclose, hexact⟩ := nearest_power hk
  have hden : 0 < double.units power <<<
      (double.unitExponent power - double.unitExponent p).toNat := by
    have hunits := units_pos (hclose.pos (by positivity))
    rw [Nat.shiftLeft_eq]
    positivity
  obtain ⟨q, hq, hmin⟩ := nearest_spec double_parity (double.units p <<<
    (-(double.unitExponent power - double.unitExponent p)).toNat) hden
  rw [shiftLeft_div_shiftLeft] at hq
  rw [neg_sub] at hmin
  have hvalue : (double.units p / double.units power / 2 ^
      (double.unitExponent power - double.unitExponent p) : ℚ) =
        double.value p / double.value power := by
    rw [zpow_sub₀ two_ne_zero, value, value, unit, unit, div_div_div_eq, mul_div_mul_comm]
  refine ⟨_, q, hclose, hexact, hvalue ▸ hq, ?_⟩
  rw [dividePower, finiteParts_of_lt hp, hnearest, finiteParts_of_lt hpower]
  exact hmin

end Telemetry.Number
