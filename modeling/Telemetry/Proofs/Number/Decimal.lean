import Mathlib.Data.Int.Notation
import Mathlib.Data.Nat.Digits.Defs
import Telemetry.Number.Scan

namespace Telemetry.Number

lemma digitsOf_of_lt {n : ℕ} (h : n < 10) : digitsOf n = [Fin.ofNat 10 n] := by
  rw [digitsOf, Nat.toDigits_of_lt_base h, List.map_singleton,
    Nat.toNat_digitChar_sub_48_of_lt_ten h]

lemma digitsOf_of_le {n : ℕ} (h : 10 ≤ n) :
    digitsOf n = digitsOf (n / 10) ++ [Fin.ofNat 10 (n % 10)] := by
  have hlast : n % 10 < 10 := by omega
  rw [digitsOf, Nat.toDigits_of_base_le (by decide) h, List.map_append, List.map_singleton,
    Nat.toNat_digitChar_sub_48_of_lt_ten hlast]
  rfl

lemma valueOf_append_singleton (ds : List Digit) (d : Digit) :
    valueOf (ds ++ [d]) = 10 * valueOf ds + d.val :=
  List.foldl_append

lemma valueOf_digitsOf (n : ℕ) : valueOf (digitsOf n) = n := by
  induction n using Nat.strong_induction_on with
  | _ n ih =>
    rcases Nat.lt_or_ge n 10 with h | h
    · rw [digitsOf_of_lt h]
      simp only [valueOf, List.foldl_cons, List.foldl_nil, Fin.val_ofNat]
      omega
    · rw [digitsOf_of_le h, valueOf_append_singleton, ih (n / 10) (by omega), Fin.val_ofNat]
      omega

lemma digitsOf_ne_nil (n : ℕ) : digitsOf n ≠ [] :=
  mt List.map_eq_nil_iff.mp Nat.toDigits_ne_nil

lemma digitsOf_ne_zero_cons (n : ℕ) (d : Digit) (ds : List Digit) : digitsOf n ≠ 0 :: d :: ds := by
  induction n using Nat.strong_induction_on generalizing d ds with
  | _ n ih =>
    rcases Nat.lt_or_ge n 10 with h | h
    · rw [digitsOf_of_lt h]
      simp
    · rw [digitsOf_of_le h]
      intro heq
      cases hfront : digitsOf (n / 10) with
      | nil => exact digitsOf_ne_nil _ hfront
      | cons first more =>
        rw [hfront, List.cons_append] at heq
        obtain ⟨rfl, hmore⟩ := List.cons.inj heq
        cases more with
        | nil =>
          have hvalue := valueOf_digitsOf (n / 10)
          rw [hfront] at hvalue
          have hzero : n / 10 = 0 := hvalue.symm
          omega
        | cons second more => exact ih (n / 10) (by omega) second more hfront

namespace Numeral

structure Legal (n : Numeral) : Prop where
  whole_ne_nil : n.whole ≠ []
  no_leading_zero : ∀ d ds, n.whole ≠ 0 :: d :: ds
  exponent_ne_nil : ∀ negative ds, n.exponent = some (negative, ds) → ds ≠ []

lemma legal_ofInt (i : ℤ) : (ofInt i).Legal where
  whole_ne_nil := digitsOf_ne_nil i.natAbs
  no_leading_zero := digitsOf_ne_zero_cons i.natAbs
  exponent_ne_nil := by simp [ofInt]

lemma integer?_ofInt (i : ℤ) : (ofInt i).integer? = some i := by
  simp only [integer?, ofInt, List.isEmpty_nil, Option.isNone_none, and_self, if_true,
    valueOf_digitsOf]
  by_cases hi : i < 0
  · obtain ⟨k, hk⟩ : ∃ k, i.natAbs = k + 1 := Nat.exists_eq_succ_of_ne_zero (by omega)
    simp only [hi, decide_true, hk, Option.some.injEq]
    omega
  · simp only [hi, decide_false, Option.some.injEq]
    omega

lemma word?_ofInt {i : ℤ} (hmin : -2 ^ 63 ≤ i) (hmax : i < 2 ^ 64) :
    (ofInt i).word? = some i := by
  rw [word?, integer?_ofInt, Option.filter_some, decide_eq_true (by omega), if_pos rfl]

end Numeral

end Telemetry.Number
