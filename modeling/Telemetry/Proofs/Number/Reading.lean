import Telemetry.Proofs.Number.Powers

/-! A written number is read as a binary value close to the one that is nearest to it. -/

namespace Telemetry.Number

namespace Significand

open Format

variable {s : Significand} {p k : ℕ}

def value (s : Significand) : ℚ :=
  s.kept * 10 ^ s.exponent

lemma value_of_nat (h : s.exponent = k) : s.value = s.kept * 10 ^ k := by
  rw [value, h, zpow_natCast]

lemma value_of_neg (h : s.exponent = -k) : s.value = s.kept / 10 ^ k := by
  rw [value, h, zpow_neg, zpow_natCast, div_eq_mul_inv]

lemma two_pow_le : 2 * (2 : ℚ) ^ 64 ≤ 5 / 8 * 2 ^ (1024 : ℤ) := by
  have hpow : (2 : ℚ) ^ (66 : ℤ) ≤ 2 ^ (1024 : ℤ) := zpow_le_zpow_right₀ one_le_two (by decide)
  generalize (2 : ℚ) ^ (1024 : ℤ) = c at *
  norm_num at hpow ⊢
  linarith

structure Kept (s : Significand) : Prop where
  pos : 0 < s.kept
  lt : s.kept < 2 ^ 64

namespace Kept

variable (h : s.Kept)

include h

lemma one_le : (1 : ℚ) ≤ s.kept := by
  exact_mod_cast h.pos

lemma lt_two_pow : (s.kept : ℚ) < 2 ^ 64 := by
  exact_mod_cast h.lt

lemma value_pos : 0 < s.value :=
  mul_pos (one_pos.trans_le h.one_le) (zpow_pos (by norm_num) _)

lemma start : ∃ p < double.infinity, double.nearest s.kept 1 = p ∧
    Close 1 s.kept (double.value p) ∧ (Fits s.kept → double.value p = s.kept) := by
  apply nearest_nat h.pos
  refine le_largest (h.lt_two_pow.le.trans (le_trans ?_ two_pow_le))
  norm_num

end Kept

structure ReadAt (s : Significand) (n : ℕ) (y : ℚ) (q : ℕ) : Prop where
  close : Close n s.value y
  exact : Fits s.kept → s.exponent.natAbs ≤ 22 → y = s.value
  nearest : double.Nearest y q

lemma readAt_of_mul (h : s.Kept) (hexponent : s.exponent = k) (hk : k ≤ maxPower) :
    ∃ y q, s.ReadAt 2 y q ∧ s.magnitude? =
      if min double.infinity q = double.infinity then none else some (min double.infinity q) := by
  obtain ⟨start, hstart, hnearest, hclose, hexact⟩ := h.start
  obtain ⟨w, q, hw, hpower, hq, hmin⟩ := timesPower_spec hstart hk
  refine ⟨_, q, ⟨?_, fun hfits hsmall => ?_, hq⟩, ?_⟩
  · rw [value_of_nat hexponent]
    refine hclose.mul hw ?_ (value_nonneg _) ?_ (hw.pos (by positivity)).le <;> positivity
  · rw [value_of_nat hexponent, hexact hfits, hpower (by omega)]
  · have hnonneg : ¬ s.exponent < 0 := by omega
    have hnatAbs : s.exponent.natAbs = k := by omega
    rw [magnitude?, if_neg h.pos.ne', if_neg hnonneg, hnatAbs, if_neg hk.not_gt, hnearest, hmin]

lemma readAt_of_div (h : s.Kept) (hexponent : s.exponent = -k) (hpos : 0 < k) (hk : k ≤ maxPower) :
    ∃ y q, s.ReadAt 2 y q ∧ s.magnitude? = some (min double.infinity q) := by
  obtain ⟨start, hstart, hnearest, hclose, hexact⟩ := h.start
  obtain ⟨w, q, hw, hpower, hq, hmin⟩ := dividePower_spec hstart hk
  refine ⟨_, q, ⟨?_, fun hfits hsmall => ?_, hq⟩, ?_⟩
  · rw [value_of_neg hexponent]
    exact hclose.div hw (by positivity) (Format.value_nonneg _) (by positivity)
      (hw.pos (by positivity))
  · rw [value_of_neg hexponent, hexact hfits, hpower (by omega)]
  · have hneg : s.exponent < 0 := by omega
    have hnatAbs : s.exponent.natAbs = k := by omega
    rw [magnitude?, if_neg h.pos.ne', if_pos hneg, hnatAbs, hnearest, divideDown, if_pos hk, hmin]

section Twice

variable {n r : ℚ}

lemma growth_sq_le : growth ^ 2 ≤ 16 / 15 := by
  norm_num [growth]

lemma le_first_quotient (h : Close 2 (n / 10 ^ maxPower) r) (hn : 0 < n) :
    n * (3 / 2) * 2 ^ (-1024 : ℤ) ≤ r := by
  have hr : 0 < r := h.pos (by positivity)
  have hle := h.le
  rw [div_le_iff₀ (by positivity)] at hle
  have hbound : n ≤ 16 / 15 * r * (5 / 8 * 2 ^ (1024 : ℤ)) := by
    refine hle.trans ?_
    have := growth_sq_le
    have := pow_maxPower_lt.le
    gcongr
  rw [zpow_neg, ← div_eq_mul_inv, div_le_iff₀ (zpow_pos two_pos _)]
  linarith

lemma first_quotient_of_one_le (h : Close 2 (n / 10 ^ maxPower) r) (hn : 1 ≤ n) :
    (2 : ℚ) ^ (-1024 : ℤ) ≤ r := by
  have hfactor : 1 ≤ n * (3 / 2) := by linarith
  have hunit : (0 : ℚ) < 2 ^ (-1024 : ℤ) := zpow_pos two_pos _
  exact (le_mul_of_one_le_left hunit.le hfactor).trans (le_first_quotient h (by linarith))

lemma first_quotient_of_three_le (h : Close 2 (n / 10 ^ maxPower) r) (hn : 3 ≤ n) :
    (2 : ℚ) ^ (-1022 : ℤ) ≤ r := by
  have hfactor : 4 ≤ n * (3 / 2) := by linarith
  have hunit : (0 : ℚ) < 2 ^ (-1024 : ℤ) := zpow_pos two_pos _
  rw [show (-1022 : ℤ) = 2 + -1024 from rfl, zpow_add₀ two_ne_zero]
  refine (mul_le_mul_of_nonneg_right ?_ hunit.le).trans (le_first_quotient h (by linarith))
  exact le_trans (by norm_num) hfactor

lemma first_quotient_le (h : Close 2 (n / 10 ^ maxPower) r) (hn : 0 ≤ n) (hmax : n ≤ 2 ^ 64) :
    r ≤ largest := by
  have hpower : (1 : ℚ) ≤ 10 ^ maxPower := one_le_pow₀ (by norm_num)
  have hquotient : n / 10 ^ maxPower ≤ 2 ^ 64 := (div_le_self hn hpower).trans hmax
  refine le_largest (le_trans ?_ two_pow_le)
  calc r ≤ growth ^ 2 * (n / 10 ^ maxPower) := h.ge
    _ ≤ 2 * 2 ^ 64 := by
      have := growth_sq_le.trans (by norm_num : (16 / 15 : ℚ) ≤ 2)
      gcongr

lemma close_of_nearest (hr : (2 : ℚ) ^ (-1024 : ℤ) ≤ r) (h : double.Nearest r p) :
    Close 4 r (double.value p) := by
  -- The first of two divisions can lose two bits, which count as four roundings.
  obtain ⟨hle, hge⟩ := h.bounds (c := 50) (by decide) hr
  have hpow : 1 + (2 ^ (50 + 1))⁻¹ ≤ growth ^ 4 := by
    norm_num [growth]
  have hr' : 0 ≤ r := (zpow_pos two_pos _).le.trans hr
  exact ⟨hle.trans (mul_le_mul_of_nonneg_right hpow (value_nonneg p)),
    hge.trans (mul_le_mul_of_nonneg_right hpow hr')⟩

lemma le_22_of_size (hn : n < 2 ^ 64) (hsize : 2 ^ (-1025 : ℤ) ≤ n / 10 ^ (maxPower + k)) :
    k ≤ 22 := by
  have hlt := ten_pow_lt_of_le_div (j := 1025) hn hsize
  have hle : maxPower + k ≤ maxPower + 22 := le_of_ten_pow_lt hlt (by decide +kernel)
  exact Nat.le_of_add_le_add_left hle

lemma three_le_of_size {n : ℕ} (hpos : 0 < k)
    (hsize : (2 : ℚ) ^ (-1025 : ℤ) ≤ n / 10 ^ (maxPower + k)) : 3 ≤ n := by
  have hten : (10 : ℚ) ^ 1 ≤ 10 ^ k := pow_le_pow_right₀ (by norm_num) hpos
  have hsplit : (2 : ℚ) ^ (1025 : ℤ) = 2 * 2 ^ (1024 : ℤ) := by
    rw [mul_comm, ← zpow_add_one₀ two_ne_zero]
    rfl
  have hbound : 11 / 20 * (2 : ℚ) ^ (1024 : ℤ) * 10 ^ 1 < 2 * 2 ^ (1024 : ℤ) * n := by
    rw [← hsplit]
    refine (mul_lt_mul lt_pow_maxPower hten (by positivity) (by positivity)).trans_le ?_
    rw [← pow_add]
    exact ten_pow_le_of_le_div hsize
  have hpow : (0 : ℚ) < 2 ^ (1024 : ℤ) := zpow_pos two_pos _
  have htwo : (2 : ℚ) < n := by
    by_contra! hle
    have hmul := mul_le_mul_of_nonneg_left hle hpow.le
    generalize (2 : ℚ) ^ (1024 : ℤ) = c at hbound hmul hpow
    linarith only [hbound, hmul, hpow]
  exact_mod_cast htwo

lemma exists_first_quotient (h : s.Kept) (hexponent : s.exponent = -(maxPower + k : ℕ))
    (hpos : 0 < k) (hk : k ≤ maxPower) : ∃ r q, Close 2 (s.kept / 10 ^ maxPower) r ∧
      double.Nearest r q ∧ q < double.infinity ∧ s.magnitude? = some (dividePower q k) := by
  obtain ⟨start, hstart, hnearest, hclose, -⟩ := h.start
  obtain ⟨w, q, hw, -, hq, hmin⟩ := dividePower_spec hstart le_rfl
  have hkept : (0 : ℚ) < s.kept := one_pos.trans_le h.one_le
  have hquotient : Close 2 (s.kept / 10 ^ maxPower) (double.value start / w) :=
    hclose.div hw hkept.le (Format.value_nonneg _) (by positivity) (hw.pos (by positivity))
  have hlt : q < double.infinity :=
    hq.lt_infinity (first_quotient_le hquotient hkept.le h.lt_two_pow.le)
  refine ⟨_, q, hquotient, hq, hlt, ?_⟩
  have hneg : s.exponent < 0 := by omega
  have hnatAbs : s.exponent.natAbs = maxPower + k := by omega
  have hstart₀ : start ≠ 0 := by
    rintro rfl
    exact (hclose.pos hkept).ne' value_zero
  rw [magnitude?, if_neg h.pos.ne', if_pos hneg, hnatAbs, hnearest, divideDown,
    if_neg (by omega), if_neg hstart₀, hmin, min_eq_right hlt.le, Nat.add_sub_cancel_left,
    divideDown, if_pos hk]

end Twice

lemma readAt_of_div_twice (h : s.Kept) (hexponent : s.exponent = -(maxPower + k : ℕ)) (hpos : 0 < k)
    (hk : k ≤ maxPower) : ∃ y q, s.ReadAt 7 y q ∧
      ((2 : ℚ) ^ (-1025 : ℤ) ≤ s.value → Close 3 s.value y) ∧
      s.magnitude? = some (min double.infinity q) := by
  -- The first quotient is rounded well if the number is not far below the smallest that are.
  obtain ⟨r, first, hquotient, hfirst, hlt, hread⟩ := exists_first_quotient h hexponent hpos hk
  obtain ⟨w, q, hw, hexact, hq, hmin⟩ := dividePower_spec hlt hk
  have hvalue := value_of_neg hexponent
  have hpower : (0 : ℚ) < 10 ^ k := by positivity
  refine ⟨_, q, ⟨?_, fun _ hsmall => ?_, hq⟩, fun hsize => ?_, hmin ▸ hread⟩
  · have hround := close_of_nearest (first_quotient_of_one_le hquotient h.one_le) hfirst
    rw [hvalue, pow_add, ← div_div]
    exact (hquotient.trans hround).div hw (by positivity) (Format.value_nonneg _) hpower
      (hw.pos hpower)
  · have hmax : maxPower = 308 := rfl
    omega
  · rw [hvalue] at hsize ⊢
    have hthree : (3 : ℚ) ≤ s.kept := by exact_mod_cast three_le_of_size hpos hsize
    have hround := hfirst.close (first_quotient_of_three_le hquotient hthree)
    rw [hexact (le_22_of_size h.lt_two_pow hsize), pow_add, ← div_div]
    exact (hquotient.trans hround).div (Close.refl _) (by positivity) (Format.value_nonneg _) hpower
      hpower

namespace ReadAt

variable {n q : ℕ} {y : ℚ}

lemma eq_of_exact (h : s.ReadAt n y q) (hp : double.Nearest s.value p) (hfits : Fits s.kept)
    (hsmall : s.exponent.natAbs ≤ 22) : q = p :=
  h.nearest.unique (h.exact hfits hsmall ▸ hp)

lemma lt_infinity (h : s.ReadAt n y q) (hkept : s.Kept) (hn : n ≤ 7) (hexponent : s.exponent ≤ 0) :
    q < double.infinity := by
  apply h.nearest.lt_infinity
  refine le_largest (le_trans ?_ two_pow_le)
  have hvalue : s.value ≤ 2 ^ 64 := by
    refine le_trans (mul_le_of_le_one_right (by positivity) ?_) hkept.lt_two_pow.le
    exact zpow_le_one_of_nonpos₀ (by norm_num) hexponent
  have hpow : growth ^ n ≤ 2 :=
    (pow_le_pow_right₀ one_lt_growth.le hn).trans (by norm_num [growth])
  calc y ≤ growth ^ n * s.value := h.close.ge
    _ ≤ 2 * 2 ^ 64 := by
      have hpos := hkept.value_pos
      gcongr

end ReadAt

lemma near_of_tiny {q : ℕ} {x y : ℚ} (hp : double.Nearest x p) (hq : double.Nearest y q)
    (h : Close 7 x y) (hpos : 0 < x) (hx : x ≤ 2 ^ (-1025 : ℤ)) : q ≤ p + 1 ∧ p ≤ q + 1 := by
  have hvalue : double.value (2 ^ 49) = 2 ^ (-1025 : ℤ) := by
    have hunits := value_add (f := double) (a := 0) (n := 2 ^ 49) (.inl rfl) (by decide)
    rw [Nat.zero_mul, Nat.zero_add] at hunits
    rw [hunits, Nat.cast_pow, Nat.cast_two, ← zpow_natCast, ← zpow_add₀ two_ne_zero]
    rfl
  -- with so few units the rungs are too far apart for seven roundings to be felt
  have hpow : growth ^ 7 ≤ 1 + (2 ^ 50)⁻¹ := by
    norm_num [growth]
  have hp' : p ≤ 2 ^ 49 := hp.mono (nearest_value _) (hx.trans_eq hvalue.symm)
  have hqp : q ≤ p + 1 := by
    apply hp.le_succ (c := 50) hq ((double.units_le p).trans_lt (by omega))
    exact h.ge.trans (mul_le_mul_of_nonneg_right hpow hpos.le)
  have hpq : p ≤ q + 1 := by
    apply hq.le_succ (c := 50) hp ((double.units_le q).trans_lt (by omega))
    exact h.le.trans (mul_le_mul_of_nonneg_right hpow (h.pos hpos).le)
  exact ⟨hqp, hpq⟩

lemma le_maxPower_of_nearest (h : s.Kept) (hexponent : s.exponent = k)
    (hp : double.Nearest s.value p) (hlt : p + 1 < double.infinity) : k ≤ maxPower := by
  have hbound : (10 : ℚ) ^ k < (2 ^ (1024 + 0) : ℕ) := by
    rw [← two_zpow_mul, pow_zero, mul_one]
    calc (10 : ℚ) ^ k ≤ s.kept * 10 ^ k := le_mul_of_one_le_left (by positivity) h.one_le
      _ = s.value := (value_of_nat hexponent).symm
      _ ≤ double.midpoint p := hp.le_midpoint
      _ < largest := midpoint_lt_value (by omega)
      _ < 2 ^ (1024 : ℤ) := largest_lt
  exact le_of_ten_pow_lt hbound (by decide +kernel)

lemma le_two_maxPower_of_nearest (h : s.Kept) (hexponent : s.exponent = -k)
    (hp : double.Nearest s.value p) (hpos : 0 < p) : k ≤ maxPower + maxPower := by
  have hleast : double.midpoint 0 = 2 ^ (-1075 : ℤ) := by
    have hmidpoint := midpoint_add (f := double) (a := 0) (n := 0) (.inl rfl) (by decide)
    simp only [Nat.zero_mul, Nat.cast_zero, zero_add, add_zero, one_div] at hmidpoint
    rw [hmidpoint, ← zpow_neg_one, ← zpow_add₀ two_ne_zero]
    rfl
  have hsize : (2 : ℚ) ^ (-1075 : ℤ) ≤ s.kept / 10 ^ k := by
    rw [← hleast, ← value_of_neg hexponent]
    exact hp.midpoint_le hpos
  exact le_of_ten_pow_lt (ten_pow_lt_of_le_div (j := 1075) h.lt_two_pow hsize) (by decide +kernel)

structure ReadNear (s : Significand) (p q : ℕ) : Prop where
  finite : q < double.infinity
  near : q ≤ p + 3 ∧ p ≤ q + 3
  nearer : -(maxPower : ℤ) ≤ s.exponent → q ≤ p + 2 ∧ p ≤ q + 2
  exact : Fits s.kept → s.exponent.natAbs ≤ 22 → q = p

lemma ReadAt.readNear {y : ℚ} {q : ℕ} (h : s.ReadAt 2 y q) (hp : double.Nearest s.value p)
    (hq : q < double.infinity) : s.ReadNear p q := by
  have hqp : q ≤ p + 2 := hp.le_add h.nearest h.close
  have hpq : p ≤ q + 2 := h.nearest.le_add hp h.close.symm
  exact ⟨hq, ⟨by omega, by omega⟩, fun _ => ⟨hqp, hpq⟩, h.eq_of_exact hp⟩

lemma magnitude?_of_div_twice (h : s.Kept) (hexponent : s.exponent = -(maxPower + k : ℕ))
    (hpos : 0 < k) (hp : double.Nearest s.value p) (hppos : 0 < p) :
    ∃ q, s.magnitude? = some q ∧ s.ReadNear p q := by
  have hk := le_two_maxPower_of_nearest h hexponent hp hppos
  obtain ⟨y, q, hread, hclose, hq⟩ := readAt_of_div_twice h hexponent hpos (by omega)
  have hfinite := hread.lt_infinity h le_rfl (by omega)
  rw [min_eq_right hfinite.le] at hq
  refine ⟨q, hq, hfinite, ?_, fun hhigh => by omega, hread.eq_of_exact hp⟩
  rcases le_total s.value (2 ^ (-1025 : ℤ)) with htiny | hsize
  · have := near_of_tiny hp hread.nearest hread.close h.value_pos htiny
    omega
  · exact ⟨hp.le_add hread.nearest (hclose hsize), hread.nearest.le_add hp (hclose hsize).symm⟩

theorem magnitude?_of_nearest (h : s.Kept) (hp : double.Nearest s.value p) (hpos : 0 < p)
    (hroom : 0 ≤ s.exponent → p + 2 < double.infinity) :
    ∃ q, s.magnitude? = some q ∧ s.ReadNear p q := by
  -- The numbers that round to the two largest values are left out, as long as they are not divided:
  -- their products might be infinite.
  rcases lt_or_ge s.exponent 0 with hexponent | hexponent
  · obtain ⟨k, hk⟩ : ∃ k : ℕ, s.exponent = -k := ⟨s.exponent.natAbs, by omega⟩
    rcases Nat.lt_or_ge maxPower k with hlow | hlow
    · obtain ⟨j, rfl⟩ : ∃ j, k = maxPower + j := Nat.exists_eq_add_of_le hlow.le
      exact magnitude?_of_div_twice h hk (by omega) hp hpos
    · obtain ⟨y, q, hread, hq⟩ := readAt_of_div h hk (by omega) hlow
      have hfinite := hread.lt_infinity h (by decide) hexponent.le
      rw [min_eq_right hfinite.le] at hq
      exact ⟨q, hq, hread.readNear hp hfinite⟩
  · obtain ⟨k, hk⟩ := Int.eq_ofNat_of_zero_le hexponent
    have hlt := hroom hexponent
    obtain ⟨y, q, hread, hq⟩ := readAt_of_mul h hk (le_maxPower_of_nearest h hk hp (by omega))
    have hfinite : q < double.infinity := (hp.le_add hread.nearest hread.close).trans_lt hlt
    rw [min_eq_right hfinite.le, if_neg hfinite.ne] at hq
    exact ⟨q, hq, hread.readNear hp hfinite⟩

end Significand

end Telemetry.Number
