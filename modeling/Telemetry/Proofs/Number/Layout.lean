import Telemetry.Json.Value
import Telemetry.Proofs.Number.Decimal
import Telemetry.Proofs.Number.Reading
import Telemetry.Proofs.Number.Shortest

namespace Telemetry.Number

section Digits

lemma foldl_digits (n : ℕ) (ds : List Digit) :
    ds.foldl (fun n d => 10 * n + d.val) n = n * 10 ^ ds.length + valueOf ds := by
  induction ds generalizing n with
  | nil => simp [valueOf]
  | cons d ds ih =>
    have hcons : valueOf (d :: ds) = (10 * 0 + d.val) * 10 ^ ds.length + valueOf ds := ih _
    rw [List.foldl_cons, ih, hcons, List.length_cons]
    ring

lemma valueOf_append (as bs : List Digit) :
    valueOf (as ++ bs) = valueOf as * 10 ^ bs.length + valueOf bs := by
  rw [valueOf, List.foldl_append, foldl_digits]
  rfl

lemma valueOf_cons (d : Digit) (ds : List Digit) :
    valueOf (d :: ds) = d.val * 10 ^ ds.length + valueOf ds := by
  rw [valueOf, List.foldl_cons, foldl_digits, Nat.mul_zero, Nat.zero_add]

lemma valueOf_replicate_zero (n : ℕ) : valueOf (List.replicate n 0) = 0 := by
  induction n with
  | zero => rfl
  | succ n ih => simp [List.replicate_succ, valueOf_cons, ih]

lemma valueOf_lt (ds : List Digit) : valueOf ds < 10 ^ ds.length := by
  induction ds with
  | nil => decide
  | cons d ds ih =>
    have hd : (d.val + 1) * 10 ^ ds.length ≤ 10 * 10 ^ ds.length :=
      Nat.mul_le_mul_right _ d.isLt
    rw [valueOf_cons, List.length_cons, pow_succ']
    linarith

lemma digitsOf_head_ne_zero {n : ℕ} (hn : 0 < n) (ds : List Digit) : digitsOf n ≠ 0 :: ds := by
  cases ds with
  | nil =>
    intro h
    have hvalue := valueOf_digitsOf n
    rw [h] at hvalue
    exact hn.ne hvalue
  | cons d ds => exact digitsOf_ne_zero_cons n d ds

lemma length_digitsOf_le {n k : ℕ} (hn : 0 < n) (h : n < 10 ^ k) : (digitsOf n).length ≤ k := by
  obtain ⟨x, xs, hxs⟩ := List.exists_cons_of_ne_nil (digitsOf_ne_nil n)
  have hx : 0 < x.val := by
    refine Nat.pos_of_ne_zero fun hzero => digitsOf_head_ne_zero hn xs ?_
    rw [hxs, show x = 0 from Fin.ext hzero]
  have hvalue := valueOf_digitsOf n
  rw [hxs, valueOf_cons] at hvalue
  have hpow : 10 ^ xs.length < 10 ^ k :=
    (Nat.le_mul_of_pos_left _ hx).trans ((Nat.le_add_right _ _).trans hvalue.le) |>.trans_lt h
  rw [hxs, List.length_cons]
  exact (Nat.pow_lt_pow_iff_right (by decide)).mp hpow

end Digits

namespace Numeral

variable (n : Numeral)

def coefficient : ℕ :=
  valueOf (n.whole ++ n.fraction)

def power : ℤ :=
  (match n.exponent with
    | none => 0
    | some (negative, ds) => if negative then -(valueOf ds : ℤ) else valueOf ds) - n.fraction.length

end Numeral

namespace Significand

variable {s : Significand} {ds : List Digit}

lemma scanWhole_eq {kept : ℕ} (h : kept * 10 ^ ds.length + valueOf ds < limit) :
    scanWhole kept ds = ⟨kept * 10 ^ ds.length + valueOf ds, 0⟩ := by
  induction ds generalizing kept with
  | nil => simp [scanWhole, valueOf]
  | cons d ds ih =>
    have hvalue : kept * 10 ^ (d :: ds).length + valueOf (d :: ds) =
        (kept * 10 + d.val) * 10 ^ ds.length + valueOf ds := by
      rw [valueOf_cons, List.length_cons]
      ring
    rw [hvalue] at h ⊢
    have hstep : kept * 10 + d.val < limit :=
      ((Nat.le_mul_of_pos_right _ (by positivity)).trans (Nat.le_add_right _ _)).trans_lt h
    rw [scanWhole, if_pos hstep, ih h]

lemma scanFraction_eq (h : s.kept * 10 ^ ds.length + valueOf ds < limit) :
    s.scanFraction ds = ⟨s.kept * 10 ^ ds.length + valueOf ds, s.exponent - ds.length⟩ := by
  induction ds generalizing s with
  | nil => simp [scanFraction, valueOf]
  | cons d ds ih =>
    have hvalue : s.kept * 10 ^ (d :: ds).length + valueOf (d :: ds) =
        (s.kept * 10 + d.val) * 10 ^ ds.length + valueOf ds := by
      rw [valueOf_cons, List.length_cons]
      ring
    rw [hvalue] at h ⊢
    have hstep : s.kept * 10 + d.val < limit :=
      ((Nat.le_mul_of_pos_right _ (by positivity)).trans (Nat.le_add_right _ _)).trans_lt h
    rw [scanFraction, if_pos hstep, ih h, List.length_cons]
    push_cast
    congr 1
    ring

end Significand

namespace Numeral

variable {n : Numeral}

lemma scan_eq (h : n.coefficient < Significand.limit) :
    (Significand.scanWhole 0 n.whole).scanFraction n.fraction =
      ⟨n.coefficient, -n.fraction.length⟩ := by
  rw [coefficient, valueOf_append] at h ⊢
  have hwhole : 0 * 10 ^ n.whole.length + valueOf n.whole < Significand.limit := by
    rw [Nat.zero_mul, Nat.zero_add]
    exact ((Nat.le_mul_of_pos_right _ (by positivity)).trans (Nat.le_add_right _ _)).trans_lt h
  rw [Significand.scanWhole_eq hwhole, Nat.zero_mul, Nat.zero_add, Significand.scanFraction_eq h,
    zero_sub]

lemma magnitude?_eq (h : n.coefficient < Significand.limit)
    (hpower : ∀ negative ds, n.exponent = some (negative, ds) → valueOf ds ≤ maxExponent) :
    n.magnitude? = Significand.magnitude? ⟨n.coefficient, n.power⟩ := by
  simp only [magnitude?, scan_eq h, power]
  cases hexponent : n.exponent with
  | none => simp
  | some e =>
    obtain ⟨negative, ds⟩ := e
    simp only [if_neg (hpower negative ds hexponent).not_gt]
    rw [neg_add_eq_sub]

structure Spells (n : Numeral) (d : Decimal) : Prop where
  legal : n.Legal
  integer? : n.integer? = none
  value : n.coefficient * (10 : ℚ) ^ n.power = d.value
  pos : 0 < n.coefficient
  lt : n.coefficient < 10 ^ 18
  power : n.power.natAbs < 400
  exponent : ∀ negative ds, n.exponent = some (negative, ds) → valueOf ds < 1000

variable {d : Decimal} {p : ℕ}

lemma spells_of_eq (h : Format.Writes d p) (hlegal : n.Legal) (hinteger : n.integer? = none)
    (hcoefficient : n.coefficient = d.digits) (hpower : n.power = d.exponent)
    (hexponent : ∀ negative ds, n.exponent = some (negative, ds) → valueOf ds < 1000) :
    n.Spells d where
  legal := hlegal
  integer? := hinteger
  value := by rw [hcoefficient, hpower, Decimal.value]
  pos := hcoefficient ▸ h.pos
  lt := hcoefficient ▸ h.lt
  power := hpower ▸ h.exponent
  exponent := hexponent

section Shapes

variable (negative : Bool) (h : Format.Writes d p)

include h

lemma spells_whole {k : ℕ} (hk : d.exponent = k) (hlead : (digitsOf d.digits).length + k ≤ 17) :
    Spells ⟨negative, digitsOf d.digits ++ List.replicate k 0, [0], none⟩ d := by
  have hcoefficient : valueOf (digitsOf d.digits ++ List.replicate k 0 ++ [0]) =
      d.digits * 10 ^ (k + 1) := by
    rw [valueOf_append, valueOf_append, valueOf_digitsOf, valueOf_replicate_zero,
      List.length_replicate, pow_succ]
    simp [valueOf, Nat.mul_assoc]
  have hdigits := valueOf_lt (digitsOf d.digits)
  rw [valueOf_digitsOf] at hdigits
  refine ⟨⟨?_, ?_, by simp⟩, by simp [integer?], ?_, ?_, ?_, by simp [power], by simp⟩
  · simp [digitsOf_ne_nil]
  · intro first more heq
    obtain ⟨x, xs, hxs⟩ := List.exists_cons_of_ne_nil (digitsOf_ne_nil d.digits)
    simp only [hxs, List.cons_append] at heq
    obtain ⟨rfl, -⟩ := List.cons.inj heq
    exact digitsOf_head_ne_zero h.pos xs hxs
  · rw [coefficient, hcoefficient, Decimal.value, hk, zpow_natCast, power]
    push_cast
    simp
    ring
  · rw [coefficient, hcoefficient]
    exact Nat.mul_pos h.pos (by positivity)
  · rw [coefficient, hcoefficient]
    calc d.digits * 10 ^ (k + 1) < 10 ^ (digitsOf d.digits).length * 10 ^ (k + 1) :=
          Nat.mul_lt_mul_of_pos_right hdigits (by positivity)
      _ = 10 ^ ((digitsOf d.digits).length + k + 1) := by rw [← pow_add, Nat.add_assoc]
      _ ≤ 10 ^ 18 := Nat.pow_le_pow_right (by decide) (by omega)

lemma spells_split {k : ℕ} (hk : k < (digitsOf d.digits).length) (hpos : 0 < k)
    (hexponent : d.exponent = k - (digitsOf d.digits).length) :
    Spells ⟨negative, (digitsOf d.digits).take k, (digitsOf d.digits).drop k, none⟩ d := by
  have hdrop : (digitsOf d.digits).drop k ≠ [] := by
    rw [ne_eq, List.drop_eq_nil_iff]
    omega
  refine spells_of_eq h ⟨?_, ?_, by simp⟩ (by simp [integer?, hdrop]) ?_ ?_ (by simp)
  · simp [digitsOf_ne_nil, hpos.ne']
  · intro first more heq
    obtain ⟨x, xs, hxs⟩ := List.exists_cons_of_ne_nil (digitsOf_ne_nil d.digits)
    obtain ⟨j, rfl⟩ := Nat.exists_eq_add_one.mpr hpos
    simp only [hxs, List.take_succ_cons] at heq
    obtain ⟨rfl, -⟩ := List.cons.inj heq
    exact digitsOf_head_ne_zero h.pos xs hxs
  · rw [coefficient, List.take_append_drop, valueOf_digitsOf]
  · simp only [Numeral.power, hexponent, List.length_drop]
    omega

lemma spells_small {k : ℕ} (hexponent : d.exponent = -(k + (digitsOf d.digits).length : ℕ)) :
    Spells ⟨negative, [0], List.replicate k 0 ++ digitsOf d.digits, none⟩ d := by
  refine spells_of_eq h ⟨by simp, by simp, by simp⟩ (by simp [integer?, digitsOf_ne_nil]) ?_ ?_
    (by simp)
  · rw [coefficient, valueOf_append, valueOf_append, valueOf_replicate_zero, valueOf_digitsOf]
    simp [valueOf]
  · rw [Numeral.power, hexponent, List.length_append, List.length_replicate]
    simp

lemma spells_scientific {lead : ℤ} (hlead : lead = (digitsOf d.digits).length - 1 + d.exponent)
    (hmax : lead.natAbs < 1000) :
    Spells ⟨negative, (digitsOf d.digits).take 1, (digitsOf d.digits).drop 1,
      some (lead < 0, digitsOf lead.natAbs)⟩ d := by
  obtain ⟨x, xs, hxs⟩ := List.exists_cons_of_ne_nil (digitsOf_ne_nil d.digits)
  refine spells_of_eq h ⟨by simp [hxs], by simp [hxs], ?_⟩ (by simp [integer?]) ?_ ?_ ?_
  · rintro negative ds ⟨⟩
    exact digitsOf_ne_nil _
  · rw [coefficient, List.take_append_drop, valueOf_digitsOf]
  · simp only [Numeral.power, valueOf_digitsOf, List.length_drop, hxs, List.length_cons] at hlead ⊢
    by_cases hneg : lead < 0
    · simp only [hneg, decide_true, if_true]
      omega
    · simp only [hneg, decide_false, Bool.false_eq_true, if_false]
      omega
  · rintro negative ds ⟨⟩
    rwa [valueOf_digitsOf]

end Shapes

variable {layout : Layout}

theorem spells_numeral (hpoint : layout.pointZero = true)
    (hrange : ∀ lead, layout.positional lead → lead ≤ 16) (negative : Bool)
    (h : Format.Writes d p) : (layout.numeral negative d).Spells d := by
  have hlength : 0 < (digitsOf d.digits).length := List.length_pos_iff.mpr (digitsOf_ne_nil _)
  have hshort : (digitsOf d.digits).length ≤ 18 := length_digitsOf_le h.pos h.lt
  have hexponent := h.exponent
  simp only [Layout.numeral, List.splitAt_eq]
  split
  next hpositional =>
    have hlead := hrange _ hpositional
    split
    next hk => exact spells_whole negative h (by omega) (by omega)
    next hk =>
      split
      next hwhole =>
        obtain ⟨k, hk⟩ := Int.eq_ofNat_of_zero_le hwhole
        rw [hk, Int.toNat_natCast]
        exact spells_split negative h (by omega) (by omega) (by omega)
      next => exact spells_small negative h (by omega)
  next => exact spells_scientific negative h rfl (by omega)

end Numeral

end Telemetry.Number
