import Mathlib.Algebra.Order.Ring.Pow
import Telemetry.Proofs.Number.Rounding

/-! How far rounding moves a number, and how many rungs apart close numbers are rounded. -/

namespace Telemetry.Number

def growth : ℚ :=
  1 + (2 ^ 53)⁻¹

lemma one_lt_growth : 1 < growth := by
  norm_num [growth]

lemma growth_pos : 0 < growth :=
  one_pos.trans one_lt_growth

structure Close (n : ℕ) (x y : ℚ) : Prop where
  le : x ≤ growth ^ n * y
  ge : y ≤ growth ^ n * x

namespace Close

variable {m n : ℕ} {x y z x' y' : ℚ}

lemma refl (x : ℚ) : Close 0 x x := by
  constructor <;> simp

lemma symm (h : Close n x y) : Close n y x :=
  ⟨h.ge, h.le⟩

lemma pos (h : Close n x y) (hx : 0 < x) : 0 < y :=
  pos_of_mul_pos_right (hx.trans_le h.le) (pow_pos growth_pos n).le

lemma trans (hxy : Close m x y) (hyz : Close n y z) : Close (m + n) x z := by
  constructor
  · calc x ≤ growth ^ m * y := hxy.le
      _ ≤ growth ^ m * (growth ^ n * z) := by
        have := growth_pos
        gcongr
        exact hyz.le
      _ = growth ^ (m + n) * z := by ring
  · calc z ≤ growth ^ n * y := hyz.ge
      _ ≤ growth ^ n * (growth ^ m * x) := by
        have := growth_pos
        gcongr
        exact hxy.ge
      _ = growth ^ (m + n) * x := by ring

lemma mul (h : Close m x y) (h' : Close n x' y') (hx : 0 ≤ x) (hy : 0 ≤ y) (hx' : 0 ≤ x')
    (hy' : 0 ≤ y') : Close (m + n) (x * x') (y * y') := by
  have hpow := growth_pos
  constructor
  · calc x * x' ≤ (growth ^ m * y) * (growth ^ n * y') := by
          gcongr
          exacts [h.le, h'.le]
      _ = growth ^ (m + n) * (y * y') := by ring
  · calc y * y' ≤ (growth ^ m * x) * (growth ^ n * x') := by
          gcongr
          exacts [h.ge, h'.ge]
      _ = growth ^ (m + n) * (x * x') := by ring

lemma inv (h : Close n x y) (hx : 0 < x) (hy : 0 < y) : Close n x⁻¹ y⁻¹ := by
  have hpow : 0 < growth ^ n := pow_pos growth_pos n
  constructor
  · rw [inv_le_iff_one_le_mul₀ hx, mul_assoc, mul_comm y⁻¹, ← mul_assoc, ← div_eq_mul_inv,
      one_le_div hy]
    exact h.ge
  · rw [inv_le_iff_one_le_mul₀ hy, mul_assoc, mul_comm x⁻¹, ← mul_assoc, ← div_eq_mul_inv,
      one_le_div hx]
    exact h.le

lemma div (h : Close m x y) (h' : Close n x' y') (hx : 0 ≤ x) (hy : 0 ≤ y) (hx' : 0 < x')
    (hy' : 0 < y') : Close (m + n) (x / x') (y / y') := by
  rw [div_eq_mul_inv, div_eq_mul_inv]
  exact h.mul (h'.inv hx' hy') hx hy (inv_pos.mpr hx').le (inv_pos.mpr hy').le

end Close

namespace Format

variable {f : Format} {p q : ℕ} {x y r : ℚ}

lemma Nearest.bounds {c : ℕ} (hc : c ≤ f.fraction) (hr : (2 : ℚ) ^ (f.minExponent + c) ≤ r)
    (h : f.Nearest r p) :
    r ≤ (1 + (2 ^ (c + 1))⁻¹) * f.value p ∧ f.value p ≤ (1 + (2 ^ (c + 1))⁻¹) * r := by
  have hstart : f.value (2 ^ c) = 2 ^ (f.minExponent + c) := by
    have hlt : 2 ^ c ≤ 2 ^ (f.fraction + 1) := Nat.pow_le_pow_right two_pos (by omega)
    have hvalue := value_add (f := f) (a := 0) (.inl rfl) hlt
    rw [zero_mul, zero_add] at hvalue
    rw [hvalue, Nat.cast_zero, add_zero, zpow_add₀ two_ne_zero, zpow_natCast, mul_comm]
    norm_cast
  have hp : 2 ^ c ≤ p := (nearest_value _).mono h (hstart.trans_le hr)
  -- from there on half a unit is the small part of a value that the factor allows for
  have hhalf (q : ℕ) (hq : 2 ^ c ≤ q) : f.unit q / 2 ≤ (2 ^ (c + 1))⁻¹ * f.value q := by
    have hunits : (2 : ℚ) ^ c ≤ f.units q := by exact_mod_cast pow_le_units hc hq
    rw [← div_eq_inv_mul, div_le_div_iff₀ two_pos (by positivity), value, pow_succ, ← mul_assoc,
      mul_comm (f.unit q)]
    have hunit := (unit_pos (f := f) q).le
    gcongr
  constructor
  · calc r ≤ f.midpoint p := h.le_midpoint
      _ ≤ (1 + (2 ^ (c + 1))⁻¹) * f.value p := by
        rw [midpoint, add_mul, one_mul]
        exact add_le_add_right (hhalf p hp) _
  · rcases hp.eq_or_lt with rfl | hlt
    · rw [hstart]
      exact hr.trans (le_mul_of_one_le_left ((zpow_pos two_pos _).le.trans hr) (by simp))
    · obtain ⟨q, rfl⟩ := Nat.exists_eq_add_one.mpr (Nat.zero_lt_of_lt hlt)
      calc f.value (q + 1) = f.midpoint q + f.unit q / 2 := by
            rw [value_succ, midpoint]
            ring
        _ ≤ f.midpoint q + (2 ^ (c + 1))⁻¹ * f.midpoint q := by
          have := (value_lt_midpoint (f := f) q).le
          refine add_le_add_right ((hhalf q (Nat.le_of_lt_succ hlt)).trans ?_) _
          gcongr
        _ = (1 + (2 ^ (c + 1))⁻¹) * f.midpoint q := by ring
        _ ≤ (1 + (2 ^ (c + 1))⁻¹) * r := by
          have := h.midpoint_le q.lt_succ_self
          gcongr

lemma Nearest.close (h : double.Nearest r p) (hr : (2 : ℚ) ^ (-1022 : ℤ) ≤ r) :
    Close 1 r (double.value p) := by
  obtain ⟨hle, hge⟩ := h.bounds (c := 52) le_rfl hr
  exact ⟨by rwa [pow_one], by rwa [pow_one]⟩

lemma growth_mul_midpoint_lt (p : ℕ) : growth * double.midpoint p < double.midpoint (p + 1) :=
  midpoint_growth (double.units_lt p)

lemma growth_pow_mul_midpoint_le (n p : ℕ) :
    growth ^ n * double.midpoint p ≤ double.midpoint (p + n) := by
  -- Every rounding leads at most one rung further.
  induction n with
  | zero => simp
  | succ n ih =>
    calc growth ^ (n + 1) * double.midpoint p = growth * (growth ^ n * double.midpoint p) := by ring
      _ ≤ growth * double.midpoint (p + n) := mul_le_mul_of_nonneg_left ih growth_pos.le
      _ ≤ double.midpoint (p + (n + 1)) := (growth_mul_midpoint_lt _).le

lemma growth_pow_succ_mul_midpoint_lt (n p : ℕ) :
    growth ^ (n + 1) * double.midpoint p < double.midpoint (p + (n + 1)) := by
  calc growth ^ (n + 1) * double.midpoint p = growth * (growth ^ n * double.midpoint p) := by ring
    _ ≤ growth * double.midpoint (p + n) :=
      mul_le_mul_of_nonneg_left (growth_pow_mul_midpoint_le n p) growth_pos.le
    _ < double.midpoint (p + (n + 1)) := growth_mul_midpoint_lt _

lemma Nearest.le_add {n : ℕ} (hp : double.Nearest x p) (hq : double.Nearest y q)
    (h : Close (n + 1) x y) : q ≤ p + (n + 1) := by
  by_contra! hlt
  have hupper : y < double.midpoint (p + (n + 1)) :=
    calc y ≤ growth ^ (n + 1) * x := h.ge
      _ ≤ growth ^ (n + 1) * double.midpoint p :=
        mul_le_mul_of_nonneg_left hp.le_midpoint (pow_pos growth_pos _).le
      _ < double.midpoint (p + (n + 1)) := growth_pow_succ_mul_midpoint_lt n p
  exact (hq.midpoint_le hlt).not_gt hupper

lemma Nearest.le_succ {c : ℕ} (hp : f.Nearest x p) (hq : f.Nearest y q) (hc : f.units p < 2 ^ c)
    (hxy : y ≤ (1 + (2 ^ c)⁻¹) * x) : q ≤ p + 1 := by
  by_contra! hlt
  have hupper : y < f.midpoint (p + 1) :=
    calc y ≤ (1 + (2 ^ c)⁻¹) * x := hxy
      _ ≤ (1 + (2 ^ c)⁻¹) * f.midpoint p := mul_le_mul_of_nonneg_left hp.le_midpoint (by positivity)
      _ < f.midpoint (p + 1) := midpoint_growth hc
  exact (hq.midpoint_le hlt).not_gt hupper

end Format

end Telemetry.Number
