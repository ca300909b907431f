import Telemetry.Measurement.Value
import Telemetry.Proofs.Number.ReadBack

namespace Telemetry

namespace Number

open Format

variable {v : Binary32} {n : ℕ}

lemma nearest_natCast (hn : n ≤ 2 ^ 64) : ∃ p < double.infinity,
    double.nearest n 1 = p ∧ double.Nearest n p := by
  obtain ⟨p, hp, hmin⟩ := nearest_spec double_parity n one_pos
  rw [Nat.cast_one, div_one] at hp
  have hle : (n : ℚ) ≤ 2 * 2 ^ 64 := by
    have hcast : (n : ℚ) ≤ 2 ^ 64 := by exact_mod_cast hn
    linarith
  have hlt := hp.lt_infinity (le_largest (hle.trans Significand.two_pow_le))
  exact ⟨p, hlt, hmin.trans (min_eq_right hlt.le), hp⟩

lemma fits_of_le (hn : n ≤ 2 ^ 53) : Fits n := by
  rcases hn.lt_or_eq with hlt | rfl
  · exact ⟨n, 0, by omega, hlt⟩
  · exact ⟨1, 53, by decide, by decide⟩

lemma ofScaled_of_lt {m : ℕ} {e : ℤ} (hm : m < 2 ^ 24) (hmin : -149 ≤ e) (hmax : e ≤ 104) :
    double.ofScaled m e < double.infinity ∧
      double.value (double.ofScaled m e) = m * 2 ^ e := by
  -- Every binary32 value is one of binary64.
  obtain ⟨p, hp, hscaled⟩ := ofScaled_spec m e
  obtain ⟨q, hq⟩ := exists_value_eq (f := double) (n := m) (hm.trans (by decide)) (e + 1074).toNat
  have hexponent : double.minExponent + (e + 1074).toNat = e := by
    have hleast : double.minExponent = -1074 := by decide
    omega
  rw [hexponent] at hq
  obtain rfl : p = q := hp.unique (hq ▸ nearest_value q)
  have hlargest : (m : ℚ) * 2 ^ e ≤ largest := by
    have hsignificand : (m : ℚ) ≤ 2 ^ 24 := by exact_mod_cast hm.le
    have hpower : (2 : ℚ) ^ e ≤ 2 ^ (104 : ℤ) := zpow_le_zpow_right₀ one_le_two hmax
    calc (m : ℚ) * 2 ^ e ≤ 2 ^ 24 * 2 ^ (104 : ℤ) := by gcongr
      _ ≤ (2 ^ 53 - 1 : ℕ) * 2 ^ (971 : ℤ) := by
        have htop : (2 : ℚ) ^ (104 : ℤ) ≤ 2 ^ (971 : ℤ) :=
          zpow_le_zpow_right₀ one_le_two (by decide)
        have hfull : (2 : ℚ) ^ 24 ≤ (2 ^ 53 - 1 : ℕ) := by norm_num
        gcongr
      _ = largest := largest_eq.symm
  have hlt : p < double.infinity := hp.lt_infinity hlargest
  rw [hscaled, min_eq_right hlt.le]
  exact ⟨hlt, hq⟩

lemma Binary32.bounds_of_finite {negative : Bool} {m : ℕ} {e : ℤ}
    (h : v.meaning = .finite negative m e) : m < 2 ^ 24 ∧ -149 ≤ e ∧ e ≤ 104 := by
  by_cases hlt : v.bits.toNat % single.signBit < single.infinity
  · rw [meaning, meaning_of_lt hlt] at h
    obtain ⟨-, rfl, rfl⟩ := Meaning.finite.inj h
    have hunits := units_lt (f := single) (p := v.bits.toNat % single.signBit)
    have hleast : single.minExponent = -149 := by decide
    have hinfinity : single.infinity = 255 * 2 ^ 23 := by decide
    have hfraction : single.fraction = 23 := rfl
    simp only [unitExponent, binade, hleast, hfraction] at hunits ⊢
    omega
  · simp only [meaning, Format.meaning] at h
    split_ifs at h <;> omega

end Number

namespace Measurement.Value

open Number Format

inductive IsInteger : Value → ℤ → Prop
  | int32 (x : Int32) : IsInteger (.int32 x) x.toInt
  | int64 (x : Int64) : IsInteger (.int64 x) x.toInt
  | uint32 (x : UInt32) : IsInteger (.uint32 x) x.toNat
  | uint64 (x : UInt64) : IsInteger (.uint64 x) x.toNat

/-- What a value is as a binary64 number: floats keep their value, integers go to the nearest
number and truth values are one and zero. -/
inductive CoercesTo : Value → Binary64 → Prop
  | float64 (x : Binary64) : CoercesTo (.float64 x) x
  | float32 {v : Binary32} {x : Binary64} {negative : Bool} {m : ℕ} {e : ℤ} :
      v.meaning = .finite negative m e → x.Finite → x.negative = negative →
      double.value x.magnitude = m * 2 ^ e → CoercesTo (.float32 v) x
  | infinite {v : Binary32} {x : Binary64} {negative : Bool} :
      v.meaning = .infinite negative → x.meaning = .infinite negative → CoercesTo (.float32 v) x
  | nan {v : Binary32} {x : Binary64} :
      v.meaning = .nan → x.meaning = .nan → CoercesTo (.float32 v) x
  | integer {v : Value} {n : ℤ} {x : Binary64} : v.IsInteger n → x.Finite →
      x.negative = decide (n < 0) → double.Nearest n.natAbs x.magnitude →
      (n.natAbs ≤ 2 ^ 53 → double.value x.magnitude = n.natAbs) → CoercesTo v x
  | true : CoercesTo (.bool .true) ⟨0x3FF0000000000000⟩
  | false : CoercesTo (.bool .false) ⟨0⟩

lemma coercesTo_ofInt {v : Value} {n : ℤ} (hv : v.IsInteger n) (hn : n.natAbs ≤ 2 ^ 64) :
    v.CoercesTo (.ofInt n) := by
  obtain ⟨p, hlt, hp, hnearest⟩ := nearest_natCast hn
  have hinfinity : double.infinity < 2 ^ 63 := by decide
  have hparts : Binary64.ofInt n = .ofParts (decide (n < 0)) p := by
    rw [Binary64.ofInt, Format.ofInt, hp, Binary64.ofParts]
  have hmagnitude : (Binary64.ofInt n).magnitude = p := by
    rw [hparts, Binary64.magnitude_ofParts (by omega)]
  refine .integer hv ?_ ?_ (hmagnitude ▸ hnearest) fun hsmall => ?_
  · rwa [Binary64.Finite, hmagnitude]
  · rw [hparts, Binary64.negative_ofParts (by omega)]
  · rw [hmagnitude]
    exact hnearest.eq_of_fits (fits_of_le hsmall)

lemma coercesTo_ofBinary32 (v : Binary32) : CoercesTo (.float32 v) (.ofBinary32 v) := by
  cases hmeaning : v.meaning with
  | nan =>
    have hquiet (negative : Bool) : (Binary64.mk (.ofNat (double.withSign negative
        (double.infinity + 1 <<< (double.fraction - 1))))).meaning = .nan := by
      cases negative <;> decide
    refine .nan hmeaning ?_
    rw [Binary64.ofBinary32, convert, show single.meaning _ = _ from hmeaning]
    exact hquiet _
  | infinite negative =>
    have hinfinite : (Binary64.mk (.ofNat (double.withSign negative double.infinity))).meaning =
        .infinite negative := by
      cases negative <;> decide
    refine .infinite hmeaning ?_
    rw [Binary64.ofBinary32, convert, show single.meaning _ = _ from hmeaning]
    exact hinfinite
  | finite negative m e =>
    obtain ⟨hm, hmin, hmax⟩ := Binary32.bounds_of_finite hmeaning
    obtain ⟨hlt, hvalue⟩ := ofScaled_of_lt hm hmin hmax
    have hinfinity : double.infinity < 2 ^ 63 := by decide
    have hparts : Binary64.ofBinary32 v = .ofParts negative (double.ofScaled m e) := by
      rw [Binary64.ofBinary32, convert, show single.meaning _ = _ from hmeaning]
      rfl
    have hmagnitude : (Binary64.ofBinary32 v).magnitude = double.ofScaled m e := by
      rw [hparts, Binary64.magnitude_ofParts (by omega)]
    refine .float32 hmeaning ?_ ?_ (hmagnitude ▸ hvalue)
    · rwa [Binary64.Finite, hmagnitude]
    · rw [hparts, Binary64.negative_ofParts (by omega)]

theorem coercesTo_toBinary64 (v : Value) : v.CoercesTo v.toBinary64 := by
  cases v with
  | float32 x => exact coercesTo_ofBinary32 x
  | float64 x => exact .float64 x
  | int32 x => exact coercesTo_ofInt (.int32 x) (by have := x.le_toInt; have := x.toInt_lt; omega)
  | int64 x => exact coercesTo_ofInt (.int64 x) (by have := x.le_toInt; have := x.toInt_lt; omega)
  | uint32 x => exact coercesTo_ofInt (.uint32 x) (by have := x.toNat_lt; omega)
  | uint64 x => exact coercesTo_ofInt (.uint64 x) (by have := x.toNat_lt; omega)
  | bool x =>
    cases x with
    | false => exact .false
    | true => exact .true

end Measurement.Value

end Telemetry
