import Telemetry.Number.Shortest
import Telemetry.Proofs.Number.Rounding

/-! The decimal that is written for a binary value rounds to that value. -/

namespace Telemetry.Number

lemma zpow_mul_pow_toNat {c : ℚ} (hc : c ≠ 0) (i : ℤ) : c ^ i * c ^ (-i).toNat = c ^ i.toNat := by
  rw [← zpow_natCast, ← zpow_natCast, ← zpow_add₀ hc]
  congr 1
  omega

lemma compareScaled_eq (a b : ℕ) (i j : ℤ) :
    compareScaled a i b j = compare ((a : ℚ) * 10 ^ i) (b * 2 ^ j) := by
  -- both sides are multiplied by what makes them integers
  have hleft : (((a * Nat.pow 10 i.toNat) <<< (-j).toNat : ℕ) : ℚ) =
      a * 10 ^ i * (10 ^ (-i).toNat * 2 ^ (-j).toNat) := by
    rw [Nat.shiftLeft_eq, Nat.pow_eq]
    push_cast
    rw [← zpow_mul_pow_toNat (by norm_num : (10 : ℚ) ≠ 0)]
    ring
  have hright : (((b * Nat.pow 10 (-i).toNat) <<< j.toNat : ℕ) : ℚ) =
      b * 2 ^ j * (10 ^ (-i).toNat * 2 ^ (-j).toNat) := by
    rw [Nat.shiftLeft_eq, Nat.pow_eq]
    push_cast
    rw [← zpow_mul_pow_toNat (two_ne_zero : (2 : ℚ) ≠ 0)]
    ring
  have hscale : (0 : ℚ) < 10 ^ (-i).toNat * 2 ^ (-j).toNat := by positivity
  rw [compareScaled]
  rcases lt_trichotomy ((a : ℚ) * 10 ^ i) (b * 2 ^ j) with h | h | h
  · rw [compare_lt_iff_lt.mpr h, compare_lt_iff_lt, ← Nat.cast_lt (α := ℚ), hleft, hright]
    exact mul_lt_mul_of_pos_right h hscale
  · rw [compare_eq_iff_eq.mpr h, compare_eq_iff_eq, ← Nat.cast_inj (R := ℚ), hleft, hright, h]
  · rw [compare_gt_iff_gt.mpr h, compare_gt_iff_gt, ← Nat.cast_lt (α := ℚ), hleft, hright]
    exact mul_lt_mul_of_pos_right h hscale

def Decimal.value (d : Decimal) : ℚ :=
  d.digits * 10 ^ d.exponent

namespace Format

variable {f : Format} {p q : ℕ} {r : ℚ}

lemma nearest_succ_iff : f.Nearest r (q + 1) ↔
    (f.midpoint q < r ∨ (f.midpoint q = r ∧ q % 2 = 1)) ∧
    (r < f.midpoint (q + 1) ∨ (r = f.midpoint (q + 1) ∧ (q + 1) % 2 = 0)) := by
  constructor
  · intro h
    have hself := (h (q + 1)).not.mp (lt_irrefl _)
    refine ⟨(h q).mp q.lt_succ_self, ?_⟩
    rcases h.le_midpoint.lt_or_eq with hlt | heq
    · exact .inl hlt
    · exact .inr ⟨heq, Nat.mod_two_ne_one.mp fun hodd => hself (.inr ⟨heq.symm, hodd⟩)⟩
  · rintro ⟨hlow, hhigh⟩ i
    rcases lt_trichotomy i q with hlt | rfl | hgt
    · have hmid := f.midpoint_strictMono hlt
      exact iff_of_true (by omega) (.inl (hmid.trans_le (hlow.elim le_of_lt fun h => h.1.le)))
    · exact iff_of_true i.lt_succ_self hlow
    · have hmid := f.midpoint_strictMono.monotone (Nat.succ_le_of_lt hgt)
      refine iff_of_false (by omega) ?_
      rintro (h | ⟨rfl, hodd⟩)
      · rcases hhigh with h' | ⟨h', -⟩ <;> linarith
      · rcases hhigh with h' | ⟨h', heven⟩
        · exact h'.not_ge hmid
        · have := f.midpoint_strictMono.injective h'
          omega

lemma midpoint_eq (p : ℕ) :
    f.midpoint p = (4 * f.units p + 2 : ℕ) * 2 ^ (f.unitExponent p - 2) := by
  rw [midpoint, value, unit, zpow_sub₀ two_ne_zero]
  push_cast
  ring

def Narrow (f : Format) (p : ℕ) : Prop :=
  f.units p = 2 ^ f.fraction ∧ f.minExponent < f.unitExponent p

instance : Decidable (f.Narrow p) :=
  inferInstanceAs (Decidable (_ ∧ _))

lemma midpoint_pred_of_narrow {q : ℕ} (h : f.Narrow (q + 1)) :
    f.midpoint q = (4 * f.units (q + 1) - 1 : ℕ) * 2 ^ (f.unitExponent (q + 1) - 2) := by
  have hsplit := f.binade_mul_add_units (q + 1)
  obtain ⟨hunits, hexponent⟩ := h
  rw [hunits] at hsplit ⊢
  rw [unitExponent] at hexponent ⊢
  generalize f.binade (q + 1) = a at *
  obtain ⟨b, rfl⟩ : ∃ b, a = b + 1 := Nat.exists_eq_add_one.mpr (by omega)
  have hpow : 2 ^ (f.fraction + 1) = 2 * 2 ^ f.fraction := pow_succ' 2 f.fraction
  have hone : 1 ≤ 2 ^ f.fraction := Nat.one_le_two_pow
  have hq : q = b * 2 ^ f.fraction + (2 ^ (f.fraction + 1) - 1) := by
    rw [Nat.add_mul] at hsplit
    omega
  rw [hq, midpoint_add (.inr (by omega)) (by omega), Nat.cast_sub (by omega),
    Nat.cast_sub (by omega)]
  push_cast
  rw [pow_succ, show f.minExponent + (b + 1 : ℤ) - 2 = f.minExponent + b + -1 by ring,
    zpow_add₀ two_ne_zero (f.minExponent + b)]
  norm_num
  ring

lemma midpoint_pred_of_not_narrow {q : ℕ} (h : ¬ f.Narrow (q + 1)) :
    f.midpoint q = (4 * f.units (q + 1) - 2 : ℕ) * 2 ^ (f.unitExponent (q + 1) - 2) := by
  have hsplit := f.binade_mul_add_units (q + 1)
  have hstart := binade_eq_zero_or (f := f) (q + 1)
  have hend := f.units_lt (q + 1)
  have hpos : f.units (q + 1) ≠ 0 := (units_pos (value_pos q.succ_pos)).ne'
  rw [Narrow, unitExponent] at h
  rw [unitExponent]
  generalize f.units (q + 1) = m at *
  generalize f.binade (q + 1) = a at *
  obtain ⟨n, rfl⟩ := Nat.exists_eq_succ_of_ne_zero hpos
  have hq : q = a * 2 ^ f.fraction + n := by omega
  rw [hq, midpoint_add (by omega) (by omega), Nat.cast_sub (by omega), zpow_sub₀ two_ne_zero]
  push_cast
  ring

lemma midpoint_pred (q : ℕ) : f.midpoint q =
    (4 * f.units (q + 1) - if f.Narrow (q + 1) then 1 else 2 : ℕ) *
      2 ^ (f.unitExponent (q + 1) - 2) := by
  split_ifs with h
  · exact midpoint_pred_of_narrow h
  · exact midpoint_pred_of_not_narrow h

end Format

namespace Decimal

open Format

variable {f : Format} {p : ℕ}

lemma roundsTo_iff (hparity : f.fraction ≠ 0) (hp : 0 < p) {narrow : Bool}
    (hnarrow : narrow ↔ f.Narrow p) (d : Decimal) :
    d.roundsTo narrow (f.units p) (f.unitExponent p) ↔ f.Nearest d.value p := by
  obtain ⟨q, rfl⟩ := Nat.exists_eq_add_one.mpr hp
  have hsplit := f.binade_mul_add_units (q + 1)
  have heven := even_mul_two_pow hparity (f.binade (q + 1))
  have hunits : f.units (q + 1) % 2 = (q + 1) % 2 := by omega
  have hodd : q % 2 = 1 ↔ (q + 1) % 2 = 0 := by omega
  rw [nearest_succ_iff, midpoint_pred, midpoint_eq, roundsTo]
  simp only [compareScaled_eq, hnarrow, hunits, value, hodd]
  generalize (_ * 2 ^ (f.unitExponent (q + 1) - 2) : ℚ) = low
  generalize (_ * 2 ^ (f.unitExponent (q + 1) - 2) : ℚ) = high
  generalize (d.digits * 10 ^ d.exponent : ℚ) = x
  simp only [Bool.and_eq_true, Bool.or_eq_true, beq_iff_eq, compare_gt_iff_gt, compare_lt_iff_lt,
    compare_eq_iff_eq]
  rw [eq_comm (a := low), and_comm (b := x = low), and_comm (b := x = high)]

end Decimal

section Leading

variable {m : ℕ} {e : ℤ}

def leadingGuess (k : ℤ) : ℤ :=
  (k * 30103).fdiv 100000

lemma leadingGuess_all : (List.range 2098).all fun k : ℕ =>
    compareScaled 1 (leadingGuess (k - 1074) - 1) 1 (k - 1074) != .gt &&
      compareScaled 1 (leadingGuess (k - 1074) + 2) 1 (k - 1074 + 1) != .lt := by
  decide +kernel

lemma leadingGuess_bounds {k : ℤ} (hmin : -1074 ≤ k) (hmax : k < 1024) :
    (10 : ℚ) ^ (leadingGuess k - 1) ≤ 2 ^ k ∧ (2 : ℚ) ^ (k + 1) ≤ 10 ^ (leadingGuess k + 2) := by
  obtain ⟨j, rfl⟩ : ∃ j : ℕ, k = j - 1074 := ⟨(k + 1074).toNat, by omega⟩
  have hj := List.all_eq_true.mp leadingGuess_all j (List.mem_range.mpr (by omega))
  simpa [compareScaled_eq, compare_gt_iff_gt, compare_lt_iff_lt] using hj

lemma two_zpow_le (hm : 0 < m) : (2 : ℚ) ^ ((m.log2 : ℤ) + e) ≤ m * 2 ^ e := by
  rw [zpow_add₀ two_ne_zero]
  exact mul_le_mul_of_nonneg_right (two_zpow_log2_le hm) (zpow_pos two_pos e).le

lemma lt_two_zpow : m * (2 : ℚ) ^ e < 2 ^ ((m.log2 : ℤ) + e + 1) := by
  rw [add_right_comm, zpow_add₀ two_ne_zero]
  exact mul_lt_mul_of_pos_right (lt_two_zpow_log2 m) (zpow_pos two_pos e)

lemma leadingExponent_spec (hm : 0 < m) (hmin : -1074 ≤ (m.log2 : ℤ) + e)
    (hmax : (m.log2 : ℤ) + e < 1024) : (10 : ℚ) ^ leadingExponent m e ≤ m * 2 ^ e ∧
      m * (2 : ℚ) ^ e < 10 ^ (leadingExponent m e + 1) := by
  obtain ⟨hlow, hhigh⟩ := leadingGuess_bounds hmin hmax
  rw [leadingExponent]
  simp only [compareScaled_eq, beq_iff_eq, compare_gt_iff_gt, Nat.cast_one, one_mul]
  split
  next h =>
    rw [Int.sub_add_cancel]
    exact ⟨hlow.trans (two_zpow_le hm), h⟩
  next h =>
    split
    next h' => exact ⟨not_lt.mp h, h'⟩
    next h' =>
      rw [add_assoc]
      exact ⟨not_lt.mp h', lt_two_zpow.trans_le hhigh⟩

lemma floorUnits_spec (m : ℕ) (e grid : ℤ) : floorUnits m e grid * (10 : ℚ) ^ grid ≤ m * 2 ^ e ∧
    m * (2 : ℚ) ^ e < (floorUnits m e grid + 1) * 10 ^ grid := by
  have hnum : (((m <<< e.toNat) * Nat.pow 10 (-grid).toNat : ℕ) : ℚ) =
      m * 2 ^ e * (10 ^ (-grid).toNat * 2 ^ (-e).toNat) := by
    rw [Nat.shiftLeft_eq, Nat.pow_eq]
    push_cast
    rw [← zpow_mul_pow_toNat (two_ne_zero : (2 : ℚ) ≠ 0)]
    ring
  have hden : ((Nat.pow 10 grid.toNat <<< (-e).toNat : ℕ) : ℚ) =
      10 ^ grid * (10 ^ (-grid).toNat * 2 ^ (-e).toNat) := by
    rw [Nat.shiftLeft_eq, Nat.pow_eq]
    push_cast
    rw [← zpow_mul_pow_toNat (by norm_num : (10 : ℚ) ≠ 0)]
    ring
  have hscale : (0 : ℚ) < 10 ^ (-grid).toNat * 2 ^ (-e).toNat := by positivity
  have hpos : 0 < Nat.pow 10 grid.toNat <<< (-e).toNat := by
    rw [Nat.shiftLeft_eq, Nat.pow_eq]
    positivity
  rw [floorUnits]
  generalize (m <<< e.toNat) * Nat.pow 10 (-grid).toNat = num at *
  generalize Nat.pow 10 grid.toNat <<< (-e).toNat = den at *
  have hbelow : ((num / den : ℕ) : ℚ) * den ≤ num := by exact_mod_cast Nat.div_mul_le_self num den
  have habove : (num : ℚ) < ((num / den : ℕ) + 1) * den := by
    exact_mod_cast Nat.lt_mul_of_div_lt (Nat.lt_succ_self _) hpos
  rw [hnum, hden, ← mul_assoc _ ((10 : ℚ) ^ grid)] at hbelow habove
  exact ⟨le_of_mul_le_mul_right hbelow hscale, lt_of_mul_lt_mul_right habove hscale.le⟩

end Leading

section Candidates

variable (tie : Tie) (narrow : Bool) (m : ℕ) (e grid : ℤ)

def neighbourBelow : Decimal :=
  ⟨floorUnits m e grid, grid⟩

def neighbourAbove : Decimal :=
  ⟨floorUnits m e grid + 1, grid⟩

lemma candidate?_cases :
    (candidate? tie narrow m e grid = none ∧
      (neighbourBelow m e grid).roundsTo narrow m e = false ∧
      (neighbourAbove m e grid).roundsTo narrow m e = false) ∨
    ∃ d, candidate? tie narrow m e grid = some d ∧ d.roundsTo narrow m e ∧
      (d = neighbourBelow m e grid ∨ d = neighbourAbove m e grid) := by
  simp only [candidate?]
  split
  next hbelow habove => exact .inl ⟨rfl, hbelow, habove⟩
  next hbelow _ => exact .inr ⟨_, rfl, hbelow, .inl rfl⟩
  next _ habove => exact .inr ⟨_, rfl, habove, .inr rfl⟩
  next hbelow habove =>
    right
    split
    next => exact ⟨_, rfl, habove, .inr rfl⟩
    next => exact ⟨_, rfl, hbelow, .inl rfl⟩
    next =>
      cases tie with
      | up => exact ⟨_, rfl, habove, .inr rfl⟩
      | even =>
        refine ⟨_, rfl, ?_⟩
        split
        next => exact ⟨hbelow, .inl rfl⟩
        next => exact ⟨habove, .inr rfl⟩

lemma neighbourBelow_value_le : (neighbourBelow m e grid).value ≤ m * 2 ^ e :=
  (floorUnits_spec m e grid).1

lemma lt_neighbourAbove_value : m * 2 ^ e < (neighbourAbove m e grid).value := by
  rw [Decimal.value, neighbourAbove, Nat.cast_succ]
  exact (floorUnits_spec m e grid).2

lemma neighbourAbove_value :
    (neighbourAbove m e grid).value = (neighbourBelow m e grid).value + 10 ^ grid := by
  rw [Decimal.value, Decimal.value, neighbourAbove, neighbourBelow]
  push_cast
  ring

end Candidates

namespace Decimal

lemma strip_spec (d : Decimal) (hd : 0 < d.digits) :
    0 < d.strip.digits ∧ ∃ j : ℕ, d.digits = d.strip.digits * 10 ^ j ∧
      d.strip.exponent = d.exponent + j := by
  induction d using strip.induct with
  | case1 d hzero ih =>
    have hdiv : d.digits = d.digits / 10 * 10 := by omega
    obtain ⟨hpos, j, hj, hexponent⟩ := ih (by dsimp only; omega)
    rw [strip, if_pos hzero]
    refine ⟨hpos, j + 1, ?_, ?_⟩
    · dsimp only at hj
      rw [pow_succ, ← Nat.mul_assoc, ← hj, ← hdiv]
    · dsimp only at hexponent
      rw [hexponent]
      push_cast
      ring
  | case2 d hzero =>
    rw [strip, if_neg hzero]
    exact ⟨hd, 0, by simp, by simp⟩

lemma strip_value (d : Decimal) (hd : 0 < d.digits) : d.strip.value = d.value := by
  obtain ⟨-, j, hj, hexponent⟩ := d.strip_spec hd
  rw [value, value, hexponent, hj, zpow_add₀ (by norm_num), zpow_natCast]
  push_cast
  ring

end Decimal

namespace Format

variable {p : ℕ}

lemma gap_lt_midpoint_sub {q : ℕ} {gap : ℚ} (h : gap * 10 ^ 16 ≤ double.value (q + 1)) :
    gap < double.midpoint (q + 1) - double.midpoint q := by
  have hunit := double.unit_pos q
  have hunits : (double.units q + 1 : ℚ) ≤ 2 ^ 53 := by exact_mod_cast double.units_lt q
  have hvalue : double.value (q + 1) ≤ 2 ^ 53 * double.unit q := by
    rw [value_succ, value, ← add_one_mul]
    exact mul_le_mul_of_nonneg_right hunits hunit.le
  have hgap : gap < double.unit q := by
    norm_num at h hvalue ⊢
    linarith
  have hmono := unit_mono (f := double) q.le_succ
  rw [midpoint, midpoint, value_succ]
  linarith

lemma nearest_neighbour (hp : 0 < p) {grid : ℤ} (h : 10 ^ grid * 10 ^ 16 ≤ double.value p) :
    double.Nearest (neighbourBelow (double.units p) (double.unitExponent p) grid).value p ∨
    double.Nearest (neighbourAbove (double.units p) (double.unitExponent p) grid).value p := by
  obtain ⟨q, rfl⟩ := Nat.exists_eq_add_one.mpr hp
  have hgap := gap_lt_midpoint_sub h
  have hbelow := neighbourBelow_value_le (double.units (q + 1)) (double.unitExponent (q + 1)) grid
  have habove := lt_neighbourAbove_value (double.units (q + 1)) (double.unitExponent (q + 1)) grid
  rw [neighbourAbove_value] at *
  generalize (neighbourBelow _ _ grid).value = x at *
  change x ≤ double.value (q + 1) at hbelow
  change double.value (q + 1) < x + 10 ^ grid at habove
  have hlow := midpoint_lt_value_succ (f := double) q
  have hhigh := value_lt_midpoint (f := double) (q + 1)
  simp only [nearest_succ_iff]
  rcases lt_or_ge (x + 10 ^ grid) (double.midpoint (q + 1)) with hin | hout
  · exact .inr ⟨.inl (hlow.trans habove), .inl hin⟩
  · exact .inl ⟨.inl (by linarith), .inl (hbelow.trans_lt hhigh)⟩

lemma log2_units_bounds (hlt : p < double.infinity) :
    -1074 ≤ ((double.units p).log2 : ℤ) + double.unitExponent p ∧
      ((double.units p).log2 : ℤ) + double.unitExponent p < 1024 := by
  have hlog : (double.units p).log2 < 53 := by
    by_cases hzero : double.units p = 0
    · rw [hzero]
      decide
    · exact (Nat.log2_lt hzero).mpr (double.units_lt p)
  have hbinade : double.binade p < 2046 := by
    have hdiv : p / 2 ^ double.fraction < 2047 :=
      Nat.div_lt_of_lt_mul (hlt.trans_eq (by decide))
    rw [binade]
    omega
  have hmin : double.minExponent = -1074 := by decide
  rw [unitExponent, hmin]
  omega

structure Writes (d : Decimal) (p : ℕ) : Prop where
  pos : 0 < d.digits
  lt : d.digits < 10 ^ 18
  exponent : d.exponent.natAbs < 400
  nearest : double.Nearest d.value p

lemma leadingExponent_bounds {m : ℕ} {e : ℤ} (hmin : -1074 ≤ (m.log2 : ℤ) + e)
    (hmax : (m.log2 : ℤ) + e < 1024) : (leadingExponent m e).natAbs < 330 := by
  have hguess : leadingGuess ((m.log2 : ℤ) + e) = ((m.log2 : ℤ) + e) * 30103 / 100000 :=
    Int.fdiv_eq_ediv_of_nonneg _ (by decide)
  rw [leadingGuess] at hguess
  simp only [leadingExponent, hguess]
  split_ifs <;> omega

lemma floorUnits_lt (hp : 0 < p) (hlt : p < double.infinity) (n : ℕ) :
    floorUnits (double.units p) (double.unitExponent p)
      (leadingExponent (double.units p) (double.unitExponent p) - n) < 10 ^ (n + 1) := by
  obtain ⟨hmin, hmax⟩ := log2_units_bounds hlt
  obtain ⟨-, hlead⟩ := leadingExponent_spec (units_pos (value_pos hp)) hmin hmax
  generalize leadingExponent (double.units p) (double.unitExponent p) = top at *
  have hfloor := (floorUnits_spec (double.units p) (double.unitExponent p) (top - n)).1
  have hsplit : (10 : ℚ) ^ (top + 1) = 10 ^ (n + 1) * 10 ^ (top - n) := by
    rw [← zpow_natCast, ← zpow_add₀ (by norm_num)]
    congr 1
    push_cast
    ring
  have hunit : (0 : ℚ) < 10 ^ (top - n) := zpow_pos (by norm_num) _
  have hbound := lt_of_mul_lt_mul_right (hfloor.trans_lt (hlead.trans_eq hsplit)) hunit.le
  exact_mod_cast hbound

lemma digits_pos {d : Decimal} (hp : 0 < p) (hnearest : double.Nearest d.value p) :
    0 < d.digits := by
  have hvalue : 0 < d.value := (midpoint_pos 0).trans_le (hnearest.midpoint_le hp)
  rw [Decimal.value] at hvalue
  exact_mod_cast pos_of_mul_pos_left hvalue (zpow_pos (by norm_num) _).le

lemma writes_strip {d : Decimal} (hp : 0 < p) (hnearest : double.Nearest d.value p)
    (hdigits : d.digits ≤ 10 ^ 17) (hexponent : d.exponent.natAbs < 380) : Writes d.strip p := by
  have hpos := digits_pos hp hnearest
  obtain ⟨hstrip, j, hj, hsum⟩ := d.strip_spec hpos
  have hle : d.strip.digits ≤ d.digits := hj ▸ Nat.le_mul_of_pos_right _ (by positivity)
  have hzeros : j ≤ 17 := by
    have hpow : 10 ^ j ≤ 10 ^ 17 :=
      (Nat.le_mul_of_pos_left _ hstrip).trans (hj.symm.trans_le hdigits)
    exact (Nat.pow_le_pow_iff_right (by decide)).mp hpow
  exact ⟨hstrip, by omega, by omega, (d.strip_value hpos).symm ▸ hnearest⟩

section Shortest

variable {tie : Tie} {narrow : Bool}

lemma writes_of_candidate? (hp : 0 < p) (hlt : p < double.infinity)
    (hnarrow : narrow ↔ double.Narrow p) {n : ℕ} (hn : n < 17) {d : Decimal}
    (hd : candidate? tie narrow (double.units p) (double.unitExponent p)
      (leadingExponent (double.units p) (double.unitExponent p) - n) = some d) :
    Writes d.strip p := by
  obtain ⟨hmin, hmax⟩ := log2_units_bounds hlt
  have htop := leadingExponent_bounds hmin hmax
  have hfloor := floorUnits_lt hp hlt n
  generalize leadingExponent (double.units p) (double.unitExponent p) = top at *
  rcases candidate?_cases tie narrow (double.units p) (double.unitExponent p) (top - n) with
    ⟨hnone, -⟩ | ⟨d', hd', hrounds, hneighbour⟩
  · rw [hnone] at hd
    cases hd
  · obtain rfl : d' = d := Option.some.inj (hd'.symm.trans hd)
    have hnearest := (Decimal.roundsTo_iff (f := double) (by decide) hp hnarrow d').mp hrounds
    have hpow : 10 ^ (n + 1) ≤ 10 ^ 17 := Nat.pow_le_pow_right (by decide) hn
    have hdigits : d'.digits ≤ 10 ^ 17 := by
      rcases hneighbour with rfl | rfl
      · exact hfloor.le.trans hpow
      · exact Nat.succ_le_of_lt (hfloor.trans_le hpow)
    have hexponent : d'.exponent = top - n := by
      rcases hneighbour with rfl | rfl <;> rfl
    exact writes_strip hp hnearest hdigits (by omega)

lemma candidate?_ne_none (hp : 0 < p) (hlt : p < double.infinity)
    (hnarrow : narrow ↔ double.Narrow p) :
    candidate? tie narrow (double.units p) (double.unitExponent p)
      (leadingExponent (double.units p) (double.unitExponent p) - (16 : ℕ)) ≠ none := by
  -- With seventeen digits there is a neighbour that rounds to the value.
  obtain ⟨hmin, hmax⟩ := log2_units_bounds hlt
  obtain ⟨hlead, -⟩ := leadingExponent_spec (units_pos (value_pos hp)) hmin hmax
  have hround := Decimal.roundsTo_iff (f := double) (by decide) hp hnarrow
  generalize leadingExponent (double.units p) (double.unitExponent p) = top at *
  have hgrid : (10 : ℚ) ^ (top - (16 : ℕ)) * 10 ^ 16 ≤ double.value p := by
    rw [← zpow_natCast, ← zpow_add₀ (by norm_num), Int.sub_add_cancel]
    exact hlead
  rcases candidate?_cases tie narrow (double.units p) (double.unitExponent p) (top - (16 : ℕ)) with
    ⟨-, hbelow, habove⟩ | ⟨d, hd, -⟩
  · rcases nearest_neighbour hp hgrid with h | h
    · rw [(hround _).mpr h] at hbelow
      cases hbelow
    · rw [(hround _).mpr h] at habove
      cases habove
  · rw [hd]
    exact Option.some_ne_none d

theorem shortest_writes (tie : Tie) (hp : 0 < p) (hlt : p < double.infinity) :
    Writes (double.shortest tie (double.units p) (double.unitExponent p)) p := by
  obtain ⟨narrow, hnarrow, hshortest⟩ : ∃ narrow : Bool, (narrow ↔ double.Narrow p) ∧
      double.shortest tie (double.units p) (double.unitExponent p) =
        Number.shortest tie narrow (double.units p) (double.unitExponent p) :=
    ⟨_, by rw [Narrow, decide_eq_true_iff, Nat.one_shiftLeft],
      if_neg (units_pos (value_pos hp)).ne'⟩
  rw [hshortest, Number.shortest]
  split
  next d hd =>
    obtain ⟨n, hn, hd⟩ := List.exists_of_findSome?_eq_some hd
    exact writes_of_candidate? hp hlt hnarrow (List.mem_range.mp hn) hd
  next hnone =>
    have hlast := List.findSome?_eq_none_iff.mp hnone 16 (by simp)
    exact absurd hlast (candidate?_ne_none hp hlt hnarrow)

end Shortest

end Format

end Telemetry.Number
