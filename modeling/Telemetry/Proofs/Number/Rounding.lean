import Mathlib.Algebra.Order.Field.Power
import Mathlib.Data.Rat.Lemmas
import Mathlib.Tactic.FieldSimp
import Mathlib.Tactic.Linarith
import Mathlib.Tactic.Positivity
import Mathlib.Tactic.Ring
import Telemetry.Number.Binary

/-! Patterns as the rungs of a ladder of values, and rounding as the way to the nearest rung. -/

namespace Telemetry.Number

section Integers

lemma lt_roundHalfEven_iff {num den : ℕ} (n : ℕ) (hden : 0 < den) : n < roundHalfEven num den ↔
    (2 * n + 1) * den < 2 * num ∨ ((2 * n + 1) * den = 2 * num ∧ n % 2 = 1) := by
  have hdiv := Nat.div_add_mod num den
  have hmod := Nat.mod_lt num hden
  simp only [roundHalfEven]
  generalize num / den = q at *
  generalize num % den = r at *
  subst hdiv
  rcases Nat.lt_trichotomy n q with h | rfl | h
  · have hbelow : (n + 1) * den ≤ q * den := Nat.mul_le_mul_right den h
    have hleft : (2 * n + 1) * den < 2 * (den * q + r) := by linarith
    simp only [hleft, true_or, iff_true]
    split_ifs <;> omega
  · have hleft : (2 * n + 1) * den = 2 * (den * n) + den := by ring
    rw [hleft]
    split_ifs <;> omega
  · have habove : (q + 1) * den ≤ n * den := Nat.mul_le_mul_right den h
    have hleft : 2 * (den * q + r) < (2 * n + 1) * den := by linarith
    have hle : (if 2 * r < den then q else if den < 2 * r then q + 1 else q + q % 2) ≤ n := by
      split_ifs <;> omega
    omega

variable {num den : ℕ}

lemma shiftLeft_div_shiftLeft (num den : ℕ) (e : ℤ) :
    ((num <<< (-e).toNat : ℕ) : ℚ) / (den <<< e.toNat : ℕ) = num / den / 2 ^ e := by
  rw [Nat.shiftLeft_eq, Nat.shiftLeft_eq]
  rcases Int.le_total 0 e with he | he
  · lift e to ℕ using he
    simp [div_div]
  · obtain ⟨j, rfl⟩ : ∃ j : ℕ, e = -j := ⟨(-e).toNat, by omega⟩
    simp [div_eq_mul_inv, mul_right_comm]

lemma lt_roundHalfEven_shiftLeft_iff (num n : ℕ) (e : ℤ) (hden : 0 < den) :
    n < roundHalfEven (num <<< (-e).toNat) (den <<< e.toNat) ↔
      (n + 1 / 2 : ℚ) < num / den / 2 ^ e ∨ ((n + 1 / 2 : ℚ) = num / den / 2 ^ e ∧ n % 2 = 1) := by
  have hden' : 0 < den <<< e.toNat := by
    rw [Nat.shiftLeft_eq]
    positivity
  rw [lt_roundHalfEven_iff n hden', ← shiftLeft_div_shiftLeft]
  generalize num <<< (-e).toNat = x
  generalize den <<< e.toNat = y at *
  have hy : (0 : ℚ) < y := by exact_mod_cast hden'
  have hhalf : (n + 1 / 2 : ℚ) * y = (2 * n + 1) * y / 2 := by ring
  rw [lt_div_iff₀ hy, eq_div_iff hy.ne', hhalf, div_lt_iff₀ two_pos, div_eq_iff two_ne_zero,
    mul_comm (x : ℚ)]
  exact_mod_cast Iff.rfl

lemma shiftLeft_toNat_lt_iff (k : ℤ) : num <<< (-k).toNat < den <<< k.toNat ↔
    (num : ℚ) < den * 2 ^ k := by
  rw [Nat.shiftLeft_eq, Nat.shiftLeft_eq]
  rcases Int.le_total 0 k with hk | hk
  · lift k to ℕ using hk
    simp only [Int.toNat_neg_natCast, pow_zero, mul_one, Int.toNat_natCast, zpow_natCast]
    exact_mod_cast Iff.rfl
  · obtain ⟨j, rfl⟩ : ∃ j : ℕ, k = -j := ⟨(-k).toNat, by omega⟩
    simp only [neg_neg, Int.toNat_natCast, Int.toNat_neg_natCast, pow_zero, mul_one, zpow_neg,
      zpow_natCast]
    rw [← div_eq_mul_inv, lt_div_iff₀ (by positivity)]
    exact_mod_cast Iff.rfl

lemma two_zpow_log2_le {n : ℕ} (hn : 0 < n) : (2 : ℚ) ^ (n.log2 : ℤ) ≤ n := by
  rw [zpow_natCast]
  exact_mod_cast Nat.log2_self_le hn.ne'

lemma lt_two_zpow_log2 (n : ℕ) : (n : ℚ) < 2 ^ ((n.log2 : ℤ) + 1) := by
  exact_mod_cast Nat.lt_log2_self

lemma logRatio_spec (hnum : 0 < num) (hden : 0 < den) :
    (2 : ℚ) ^ logRatio num den ≤ num / den ∧ (num : ℚ) / den < 2 ^ (logRatio num den + 1) := by
  have hden' : (0 : ℚ) < den := by exact_mod_cast hden
  have hlow : (2 : ℚ) ^ ((num.log2 : ℤ) - den.log2 - 1) ≤ num / den := by
    rw [le_div_iff₀ hden']
    calc (2 : ℚ) ^ ((num.log2 : ℤ) - den.log2 - 1) * den
        ≤ 2 ^ ((num.log2 : ℤ) - den.log2 - 1) * 2 ^ ((den.log2 : ℤ) + 1) := by
          gcongr
          exact (lt_two_zpow_log2 den).le
      _ = 2 ^ (num.log2 : ℤ) := by
          rw [← zpow_add₀ two_ne_zero]
          congr 1
          ring
      _ ≤ num := two_zpow_log2_le hnum
  have hhigh : (num : ℚ) / den < 2 ^ ((num.log2 : ℤ) - den.log2 + 1) := by
    rw [div_lt_iff₀ hden']
    calc (num : ℚ) < 2 ^ ((num.log2 : ℤ) + 1) := lt_two_zpow_log2 num
      _ = 2 ^ ((num.log2 : ℤ) - den.log2 + 1) * 2 ^ (den.log2 : ℤ) := by
          rw [← zpow_add₀ two_ne_zero]
          congr 1
          ring
      _ ≤ 2 ^ ((num.log2 : ℤ) - den.log2 + 1) * den := by
          gcongr
          exact two_zpow_log2_le hden
  unfold logRatio
  simp only [shiftLeft_toNat_lt_iff, mul_comm (den : ℚ), ← div_lt_iff₀ hden']
  split
  next h =>
    rw [Int.sub_add_cancel]
    exact ⟨hlow, h⟩
  next h => exact ⟨not_lt.mp h, hhigh⟩

end Integers

namespace Format

variable (f : Format)

def binade (p : ℕ) : ℕ :=
  p / 2 ^ f.fraction - 1

def units (p : ℕ) : ℕ :=
  p - f.binade p * 2 ^ f.fraction

def unitExponent (p : ℕ) : ℤ :=
  f.minExponent + f.binade p

def unit (p : ℕ) : ℚ :=
  2 ^ f.unitExponent p

def value (p : ℕ) : ℚ :=
  f.units p * f.unit p

def midpoint (p : ℕ) : ℚ :=
  f.value p + f.unit p / 2

variable {f} {a n p q : ℕ}

lemma binade_add (ha : a = 0 ∨ 2 ^ f.fraction ≤ n) (hn : n < 2 ^ (f.fraction + 1)) :
    f.binade (a * 2 ^ f.fraction + n) = a := by
  have hdiv : (a * 2 ^ f.fraction + n) / 2 ^ f.fraction = a + n / 2 ^ f.fraction := by
    rw [Nat.mul_comm, Nat.mul_add_div (by positivity)]
  rw [binade, hdiv]
  rcases Nat.lt_or_ge n (2 ^ f.fraction) with hlt | hge
  · obtain rfl := ha.resolve_right (by omega)
    rw [Nat.div_eq_of_lt hlt]
  · rw [Nat.div_eq_of_lt_le (k := 1) (by omega) (by omega)]
    omega

lemma units_add (ha : a = 0 ∨ 2 ^ f.fraction ≤ n) (hn : n < 2 ^ (f.fraction + 1)) :
    f.units (a * 2 ^ f.fraction + n) = n := by
  rw [units, binade_add ha hn]
  omega

variable (f p)

lemma binade_mul_le : f.binade p * 2 ^ f.fraction ≤ p :=
  (Nat.mul_le_mul_right _ (Nat.sub_le _ 1)).trans (Nat.div_mul_le_self _ _)

lemma binade_mul_add_units : f.binade p * 2 ^ f.fraction + f.units p = p :=
  Nat.add_sub_cancel' (f.binade_mul_le p)

lemma units_le : f.units p ≤ p :=
  Nat.sub_le _ _

lemma units_lt : f.units p < 2 ^ (f.fraction + 1) := by
  have hdiv := Nat.div_add_mod p (2 ^ f.fraction)
  have hmod := Nat.mod_lt p (y := 2 ^ f.fraction) (by positivity)
  rw [units, binade, Nat.sub_mul, Nat.mul_comm (p / _), pow_succ]
  omega

variable {f p}

lemma pow_le_units {c : ℕ} (hc : c ≤ f.fraction) (hp : 2 ^ c ≤ p) : 2 ^ c ≤ f.units p := by
  have hpow : 2 ^ c ≤ 2 ^ f.fraction := Nat.pow_le_pow_right two_pos hc
  have hdiv := Nat.div_add_mod p (2 ^ f.fraction)
  rw [units, binade, Nat.sub_mul, Nat.mul_comm (p / _)]
  rcases Nat.lt_or_ge p (2 ^ f.fraction) with hlt | hge
  · rw [Nat.div_eq_of_lt hlt]
    omega
  · have hone := Nat.mul_le_mul_left (2 ^ f.fraction) (Nat.div_pos hge (by positivity))
    omega

lemma binade_eq_zero_or (p : ℕ) : f.binade p = 0 ∨ 2 ^ f.fraction ≤ f.units p := by
  rcases Nat.lt_or_ge p (2 ^ f.fraction) with h | h
  · exact .inl (by rw [binade, Nat.div_eq_of_lt h])
  · exact .inr (pow_le_units le_rfl h)

lemma unit_pos (p : ℕ) : 0 < f.unit p :=
  zpow_pos two_pos _

lemma unit_mono (h : p ≤ q) : f.unit p ≤ f.unit q := by
  have hbinade : f.binade p ≤ f.binade q := Nat.sub_le_sub_right (Nat.div_le_div_right h) 1
  exact zpow_le_zpow_right₀ one_le_two (by simpa [unitExponent] using hbinade)

lemma value_add (ha : a = 0 ∨ 2 ^ f.fraction ≤ n) (hn : n ≤ 2 ^ (f.fraction + 1)) :
    f.value (a * 2 ^ f.fraction + n) = n * 2 ^ (f.minExponent + a) := by
  rcases hn.lt_or_eq with hlt | rfl
  · rw [value, unit, unitExponent, units_add ha hlt, binade_add ha hlt]
  · -- the end of a binade is the start of the next one: half as many units, twice as large
    have hnext : a * 2 ^ f.fraction + 2 ^ (f.fraction + 1) =
        (a + 1) * 2 ^ f.fraction + 2 ^ f.fraction := by ring
    have hlt : 2 ^ f.fraction < 2 ^ (f.fraction + 1) := Nat.pow_lt_pow_right one_lt_two (by omega)
    rw [hnext, value, unit, unitExponent, units_add (.inr le_rfl) hlt,
      binade_add (.inr le_rfl) hlt]
    push_cast
    rw [← add_assoc, zpow_add_one₀ two_ne_zero]
    ring

lemma value_succ (p : ℕ) : f.value (p + 1) = f.value p + f.unit p := by
  have hnext : f.value (f.binade p * 2 ^ f.fraction + (f.units p + 1)) =
      (f.units p + 1 : ℕ) * 2 ^ (f.minExponent + f.binade p) :=
    value_add ((binade_eq_zero_or p).imp_right Nat.le_succ_of_le) (f.units_lt p)
  rw [← add_assoc, binade_mul_add_units] at hnext
  rw [hnext, value, unit, unitExponent]
  push_cast
  ring

lemma value_strictMono : StrictMono f.value :=
  strictMono_nat_of_lt_succ fun p => by linarith [value_succ (f := f) p, f.unit_pos p]

lemma midpoint_lt_value_succ (p : ℕ) : f.midpoint p < f.value (p + 1) := by
  rw [value_succ, midpoint]
  linarith [f.unit_pos p]

lemma value_lt_midpoint (p : ℕ) : f.value p < f.midpoint p := by
  rw [midpoint]
  linarith [f.unit_pos p]

lemma midpoint_strictMono : StrictMono f.midpoint :=
  strictMono_nat_of_lt_succ fun p => (midpoint_lt_value_succ p).trans (value_lt_midpoint _)

lemma midpoint_lt_value (h : p < q) : f.midpoint p < f.value q :=
  (midpoint_lt_value_succ p).trans_le (value_strictMono.monotone h)

lemma value_zero : f.value 0 = 0 := by
  simp [value, units]

lemma value_pos (hp : 0 < p) : 0 < f.value p :=
  value_zero.symm.trans_lt (value_strictMono hp)

lemma units_pos (h : 0 < f.value p) : 0 < f.units p := by
  rw [value] at h
  exact_mod_cast pos_of_mul_pos_left h (unit_pos p).le

lemma value_nonneg (p : ℕ) : 0 ≤ f.value p :=
  value_zero (f := f) ▸ value_strictMono.monotone p.zero_le

lemma midpoint_pos (p : ℕ) : 0 < f.midpoint p :=
  (value_nonneg p).trans_lt (value_lt_midpoint p)

lemma midpoint_growth {c : ℕ} (hc : f.units p < 2 ^ c) :
    (1 + (2 ^ c)⁻¹) * f.midpoint p < f.midpoint (p + 1) := by
  have hunits : f.units p + 1 ≤ (2 : ℚ) ^ c := by exact_mod_cast hc
  have hbound : f.midpoint p < 2 ^ c * f.unit p := by
    refine (midpoint_lt_value_succ p).trans_le ?_
    rw [value_succ, value, ← add_one_mul]
    exact mul_le_mul_of_nonneg_right hunits (unit_pos p).le
  have hstep : (2 ^ c)⁻¹ * f.midpoint p < f.unit p := by
    rwa [inv_mul_lt_iff₀ (by positivity)]
  have hnext : f.midpoint p + f.unit p ≤ f.midpoint (p + 1) := by
    have hunit := unit_mono (f := f) p.le_succ
    rw [midpoint, midpoint, value_succ]
    linarith
  linarith

variable (f) in
/-- The pattern whose value is nearest, ties going to the even one. -/
def Nearest (r : ℚ) (p : ℕ) : Prop :=
  ∀ q, q < p ↔ f.midpoint q < r ∨ (f.midpoint q = r ∧ q % 2 = 1)

namespace Nearest

variable {r s : ℚ}

lemma le_midpoint (h : f.Nearest r p) : r ≤ f.midpoint p := by
  have hself := (h p).not.mp (lt_irrefl p)
  exact not_lt.mp fun hlt => hself (.inl hlt)

lemma midpoint_le (h : f.Nearest r q) (hpq : p < q) : f.midpoint p ≤ r :=
  ((h p).mp hpq).elim le_of_lt fun htie => htie.1.le

lemma mono (hp : f.Nearest r p) (hq : f.Nearest s q) (hrs : r ≤ s) : p ≤ q := by
  by_contra! hlt
  apply lt_irrefl q
  apply (hq q).mpr
  rcases (hp q).mp hlt with hbelow | ⟨htie, hodd⟩
  · exact .inl (hbelow.trans_le hrs)
  · exact (htie.trans_le hrs).lt_or_eq.imp_right fun heq => ⟨heq, hodd⟩

lemma unique (hp : f.Nearest r p) (hq : f.Nearest r q) : p = q :=
  le_antisymm (hp.mono hq le_rfl) (hq.mono hp le_rfl)

end Nearest

lemma nearest_value (p : ℕ) : f.Nearest (f.value p) p := by
  intro q
  constructor
  · exact fun h => .inl (midpoint_lt_value h)
  · rintro (hlt | ⟨heq, -⟩)
    · exact value_strictMono.lt_iff_lt.mp ((value_lt_midpoint q).trans hlt)
    · exact value_strictMono.lt_iff_lt.mp ((value_lt_midpoint q).trans_eq heq)

lemma nearest_zero : f.Nearest 0 0 :=
  value_zero (f := f) ▸ nearest_value 0

lemma exists_value_eq (hn : n < 2 ^ (f.fraction + 1)) (a : ℕ) :
    ∃ p, f.value p = n * 2 ^ (f.minExponent + a) := by
  induction a generalizing n with
  | zero => exact ⟨0 * 2 ^ f.fraction + n, value_add (.inl rfl) hn.le⟩
  | succ a ih =>
    -- places that are left free at the top of the significand take up part of the exponent
    rcases Nat.lt_or_ge n (2 ^ f.fraction) with hlt | hge
    · obtain ⟨p, hp⟩ := ih (n := 2 * n) (by rw [pow_succ]; omega)
      refine ⟨p, hp.trans ?_⟩
      push_cast
      rw [← add_assoc, zpow_add_one₀ two_ne_zero]
      ring
    · exact ⟨(a + 1) * 2 ^ f.fraction + n, value_add (.inr hge) hn.le⟩

lemma midpoint_add (ha : a = 0 ∨ 2 ^ f.fraction ≤ n) (hn : n < 2 ^ (f.fraction + 1)) :
    f.midpoint (a * 2 ^ f.fraction + n) = (n + 1 / 2) * 2 ^ (f.minExponent + a) := by
  rw [midpoint, value_add ha hn.le, unit, unitExponent, binade_add ha hn]
  ring

lemma midpoint_lt_of_lt_start {s : ℚ} (hs : 2 ^ f.fraction ≤ s)
    (hq : q < a * 2 ^ f.fraction + 2 ^ f.fraction) :
    f.midpoint q < s * 2 ^ (f.minExponent + a) := by
  refine (midpoint_lt_value hq).trans_le ?_
  rw [value_add (.inr le_rfl) (Nat.pow_le_pow_right two_pos (Nat.le_succ _))]
  push_cast
  exact mul_le_mul_of_nonneg_right hs (zpow_pos two_pos _).le

lemma lt_midpoint_of_end_le {s : ℚ} (hs : s < 2 ^ (f.fraction + 1))
    (hq : a * 2 ^ f.fraction + 2 ^ (f.fraction + 1) ≤ q) :
    s * 2 ^ (f.minExponent + a) < f.midpoint q := by
  have hunit : (0 : ℚ) < 2 ^ (f.minExponent + a) := zpow_pos two_pos _
  have hpow : 2 ^ (f.fraction + 1) = 2 * 2 ^ f.fraction := pow_succ' 2 f.fraction
  calc s * 2 ^ (f.minExponent + a) < 2 ^ (f.fraction + 1) * 2 ^ (f.minExponent + a) := by
        gcongr
    _ = f.value (a * 2 ^ f.fraction + 2 ^ (f.fraction + 1)) := by
        rw [value_add (.inr (by omega)) le_rfl]
        push_cast
        rfl
    _ ≤ f.value q := value_strictMono.monotone hq
    _ < f.midpoint q := value_lt_midpoint q

lemma even_mul_two_pow (hparity : f.fraction ≠ 0) (a : ℕ) : a * 2 ^ f.fraction % 2 = 0 := by
  obtain ⟨t, ht⟩ := Nat.exists_eq_succ_of_ne_zero hparity
  rw [ht, Nat.pow_succ, ← Nat.mul_assoc, Nat.mul_mod_left]

lemma nearest_of_units {s : ℚ} (hparity : f.fraction ≠ 0)
    (hn : ∀ k : ℕ, k < n ↔ (k + 1 / 2 : ℚ) < s ∨ ((k + 1 / 2 : ℚ) = s ∧ k % 2 = 1))
    (ha : a = 0 ∨ (2 : ℚ) ^ f.fraction ≤ s) (hs : s < 2 ^ (f.fraction + 1)) :
    f.Nearest (s * 2 ^ (f.minExponent + a)) (a * 2 ^ f.fraction + n) := by
  intro q
  have hunit : (0 : ℚ) < 2 ^ (f.minExponent + a) := zpow_pos two_pos _
  have hpow : 2 ^ (f.fraction + 1) = 2 * 2 ^ f.fraction := pow_succ' 2 f.fraction
  have hone : 1 ≤ 2 ^ f.fraction := Nat.one_le_two_pow
  -- rungs below the binade, or above it, are on one side of the number and of what it is rounded to
  by_cases hbelow : a ≠ 0 ∧ q < a * 2 ^ f.fraction + 2 ^ f.fraction
  · obtain ⟨hpos, hq⟩ := hbelow
    have hstart := ha.resolve_left hpos
    have hn' : 2 ^ f.fraction ≤ n := by
      refine Nat.le_of_pred_lt ((hn _).mpr (.inl ?_))
      rw [Nat.pred_eq_sub_one, Nat.cast_sub hone]
      push_cast
      linarith
    exact iff_of_true (by omega) (.inl (midpoint_lt_of_lt_start hstart hq))
  by_cases habove : a * 2 ^ f.fraction + 2 ^ (f.fraction + 1) ≤ q
  · have hn' : n ≤ 2 ^ (f.fraction + 1) := by
      by_contra! hlt
      have hhalf := (hn _).mp hlt
      push_cast at hhalf
      rcases hhalf with h | ⟨h, -⟩ <;> linarith
    have hmidpoint := lt_midpoint_of_end_le hs habove
    refine iff_of_false (by omega) ?_
    rintro (h | ⟨h, -⟩) <;> linarith
  · obtain ⟨k, rfl⟩ : ∃ k, q = a * 2 ^ f.fraction + k := by
      refine ⟨q - a * 2 ^ f.fraction, (Nat.add_sub_cancel' ?_).symm⟩
      rcases Nat.eq_zero_or_pos a with rfl | hpos
      · simp
      · exact (Nat.le_add_right _ _).trans (not_lt.mp fun hq => hbelow ⟨by omega, hq⟩)
    have heven := even_mul_two_pow hparity a
    have hparity' : (a * 2 ^ f.fraction + k) % 2 = k % 2 := by omega
    rw [midpoint_add (by omega) (by omega), hparity', Nat.add_lt_add_iff_left, hn k,
      mul_lt_mul_iff_left₀ hunit, mul_left_inj' hunit.ne']

variable {num den : ℕ}

lemma nearest_of_pos (hparity : f.fraction ≠ 0) (hnum : 0 < num) (hden : 0 < den) :
    ∃ p, f.Nearest (num / den) p ∧ f.nearest num den = min f.infinity p := by
  obtain ⟨hlow, hhigh⟩ := logRatio_spec hnum hden
  set e := max f.minExponent (logRatio num den - f.fraction) with he
  obtain ⟨a, ha⟩ : ∃ a : ℕ, e = f.minExponent + a :=
    ⟨(e - f.minExponent).toNat, by omega⟩
  have hscaled : (num : ℚ) / den / 2 ^ e * 2 ^ (f.minExponent + a) = num / den := by
    rw [← ha, div_mul_cancel₀ _ (zpow_ne_zero e two_ne_zero)]
  have hstart : a = 0 ∨ (2 : ℚ) ^ f.fraction ≤ num / den / 2 ^ e := by
    refine or_iff_not_imp_left.mpr fun hpos => ?_
    rw [le_div_iff₀ (zpow_pos two_pos e), ← zpow_natCast, ← zpow_add₀ two_ne_zero]
    refine le_of_eq_of_le ?_ hlow
    congr 1
    omega
  have hend : (num : ℚ) / den / 2 ^ e < 2 ^ (f.fraction + 1) := by
    rw [div_lt_iff₀ (zpow_pos two_pos e), ← zpow_natCast, ← zpow_add₀ two_ne_zero]
    refine hhigh.trans_le (zpow_le_zpow_right₀ one_le_two ?_)
    push_cast
    omega
  have hnearest := nearest_of_units hparity
    (fun k => lt_roundHalfEven_shiftLeft_iff num k e hden) hstart hend
  rw [hscaled] at hnearest
  refine ⟨_, hnearest, ?_⟩
  have hoffset : (e - f.minExponent).toNat = a := by omega
  simp only [nearest, hnum.ne', if_false, ← he, hoffset, Nat.shiftLeft_eq a]

lemma nearest_spec (hparity : f.fraction ≠ 0) (num : ℕ) (hden : 0 < den) :
    ∃ p, f.Nearest (num / den) p ∧ f.nearest num den = min f.infinity p := by
  rcases Nat.eq_zero_or_pos num with rfl | hnum
  · exact ⟨0, by simpa using nearest_zero, by simp [nearest]⟩
  · exact nearest_of_pos hparity hnum hden

end Format

end Telemetry.Number
