import Telemetry.Json.Shape
import Telemetry.Proofs.Number.Layout

namespace Telemetry.Number

open Format Json

namespace Binary64

def negative (x : Binary64) : Bool :=
  x.bits.toNat / double.signBit % 2 == 1

def magnitude (x : Binary64) : ℕ :=
  x.bits.toNat % double.signBit

def Finite (x : Binary64) : Prop :=
  x.magnitude < double.infinity

instance (x : Binary64) : Decidable x.Finite :=
  inferInstanceAs (Decidable (_ < _))

def ofParts (negative : Bool) (magnitude : ℕ) : Binary64 :=
  ⟨.ofNat (double.withSign negative magnitude)⟩

variable {x y : Binary64} {b : Bool} {q : ℕ}

lemma signBit_eq : double.signBit = 2 ^ 63 := by
  decide

lemma toNat_ofParts (hq : q < 2 ^ 63) :
    (ofParts b q).bits.toNat = (if b then 2 ^ 63 else 0) + q := by
  rw [ofParts, withSign, signBit_eq]
  cases b <;> simp only [Bool.false_eq_true, if_false, if_true] <;>
    rw [UInt64.toNat_ofNat', Nat.mod_eq_of_lt] <;> omega

lemma negative_ofParts (hq : q < 2 ^ 63) : (ofParts b q).negative = b := by
  rw [negative, toNat_ofParts hq, signBit_eq]
  cases b
  · rw [if_neg (by decide), Nat.zero_add, Nat.div_eq_of_lt hq]
    rfl
  · rw [if_pos rfl, Nat.add_div_left _ (by decide), Nat.div_eq_of_lt hq]
    rfl

lemma magnitude_ofParts (hq : q < 2 ^ 63) : (ofParts b q).magnitude = q := by
  rw [magnitude, toNat_ofParts hq, signBit_eq]
  cases b
  · rw [if_neg (by decide), Nat.zero_add, Nat.mod_eq_of_lt hq]
  · rw [if_pos rfl, Nat.add_mod_left, Nat.mod_eq_of_lt hq]

lemma ofParts_self (x : Binary64) : ofParts x.negative x.magnitude = x := by
  have hlt : x.bits.toNat < 2 ^ 64 := x.bits.toNat_lt
  have hdiv := Nat.div_add_mod x.bits.toNat (2 ^ 63)
  have hsign : double.withSign x.negative x.magnitude = x.bits.toNat := by
    simp only [withSign, negative, magnitude, signBit_eq, beq_iff_eq]
    split <;> omega
  rw [ofParts, hsign, UInt64.ofNat_toNat]

def numeral (x : Binary64) : Numeral :=
  layout64.numeral x.negative
    (double.shortest layout64.tie (double.units x.magnitude) (double.unitExponent x.magnitude))

lemma float64_of_finite (hx : x.Finite) : Value.float64 x = .number x.numeral := by
  rw [Value.float64, meaning, meaning_of_lt hx]
  rfl

lemma float64_of_not_finite (hx : ¬ x.Finite) : Value.float64 x = .null := by
  rw [Finite, magnitude] at hx
  rw [Value.float64, meaning, Format.meaning]
  split_ifs <;> first | rfl | omega

structure ReadBack (x y : Binary64) : Prop where
  finite : y.Finite
  negative : y.negative = x.negative
  near : y.magnitude ≤ x.magnitude + 3 ∧ x.magnitude ≤ y.magnitude + 3
  nearer : -308 ≤ x.numeral.power →
    y.magnitude ≤ x.magnitude + 2 ∧ x.magnitude ≤ y.magnitude + 2
  exact : Fits x.numeral.coefficient → x.numeral.power.natAbs ≤ 22 → y = x

end Binary64

namespace Numeral

variable {n : Numeral} {d : Decimal} {p : ℕ}

/-- The number that is written, taken exactly, rounds to the value. -/
structure Denotes (n : Numeral) (x : Binary64) : Prop where
  negative : n.negative = x.negative
  nearest : double.Nearest (n.coefficient * 10 ^ n.power) x.magnitude

lemma Spells.magnitude? (h : n.Spells d) (hp : double.Nearest d.value p) (hpos : 0 < p)
    (hroom : 0 ≤ n.power → p + 2 < double.infinity) :
    ∃ q, n.magnitude? = some q ∧ Significand.ReadNear ⟨n.coefficient, n.power⟩ p q := by
  have hlimit : n.coefficient < Significand.limit := h.lt.trans (by decide)
  have hpower (negative : Bool) (ds : List Digit) (he : n.exponent = some (negative, ds)) :
      valueOf ds ≤ maxExponent :=
    (h.exponent negative ds he).le.trans (by decide)
  rw [magnitude?_eq hlimit hpower]
  have hkept : Significand.Kept ⟨n.coefficient, n.power⟩ := ⟨h.pos, h.lt.trans (by decide)⟩
  have hvalue : Significand.value ⟨n.coefficient, n.power⟩ = d.value := h.value
  exact Significand.magnitude?_of_nearest hkept (hvalue ▸ hp) hpos hroom

lemma negative_numeral (layout : Layout) (negative : Bool) (d : Decimal) :
    (layout.numeral negative d).negative = negative := by
  simp only [Layout.numeral, List.splitAt_eq]
  split_ifs <;> rfl

lemma binary64?_of_magnitude? (hinteger : n.integer? = none) {q : ℕ} (hq : n.magnitude? = some q) :
    n.binary64? = some (.ofParts n.negative q) := by
  rw [binary64?, word?, hinteger]
  simp only [Option.filter_none, hq, Option.map_some]
  rfl

end Numeral

namespace Binary64

variable {x y : Binary64}

lemma numeral_largest : ∀ negative : Bool, ∀ j ∈ [1, 2],
    (layout64.numeral negative (double.shortest layout64.tie (double.units (double.infinity - j))
      (double.unitExponent (double.infinity - j)))).magnitude? = some (double.infinity - 1) ∧
    (layout64.numeral negative (double.shortest layout64.tie (double.units (double.infinity - j))
      (double.unitExponent (double.infinity - j)))).power = 292 := by
  decide +kernel

lemma numeral_zero (negative : Bool) : layout64.numeral negative (double.shortest layout64.tie
    (double.units 0) (double.unitExponent 0)) = ⟨negative, [0], [0], none⟩ := by
  revert negative
  decide +kernel

lemma spells_numeral (hx : x.Finite) (hpos : 0 < x.magnitude) :
    ∃ d, x.numeral.Spells d ∧ double.Nearest d.value x.magnitude := by
  have hwrites := shortest_writes layout64.tie hpos hx
  refine ⟨_, Numeral.spells_numeral rfl ?_ x.negative hwrites, hwrites.nearest⟩
  intro lead hlead
  simp only [layout64, Bool.and_eq_true, decide_eq_true_eq] at hlead
  omega

lemma readNear_numeral (hx : x.Finite) (hpos : 0 < x.magnitude) :
    ∃ q, x.numeral.magnitude? = some q ∧
      Significand.ReadNear ⟨x.numeral.coefficient, x.numeral.power⟩ x.magnitude q := by
  obtain ⟨d, hspells, hnearest⟩ := spells_numeral hx hpos
  by_cases hroom : x.magnitude + 2 < double.infinity
  · exact hspells.magnitude? hnearest hpos fun _ => hroom
  · -- the products by which the two largest values are read are known to stay finite
    obtain ⟨j, hj, hmagnitude⟩ : ∃ j ∈ [1, 2], x.magnitude = double.infinity - j := by
      rw [Finite] at hx
      have hends : x.magnitude = double.infinity - 1 ∨ x.magnitude = double.infinity - 2 := by
        omega
      rcases hends with h | h
      · exact ⟨1, by decide, h⟩
      · exact ⟨2, by decide, h⟩
    obtain ⟨hread, hpower⟩ := numeral_largest x.negative j hj
    rw [← hmagnitude] at hread hpower
    refine ⟨_, hread, by decide, by omega, fun _ => by omega, fun _ hsmall => ?_⟩
    have hpower' : x.numeral.power = 292 := hpower
    simp only [hpower'] at hsmall
    omega

lemma legal_numeral (hx : x.Finite) : x.numeral.Legal := by
  rcases Nat.eq_zero_or_pos x.magnitude with hzero | hpos
  · rw [numeral, hzero, numeral_zero]
    exact ⟨by simp, by simp, by simp⟩
  · obtain ⟨d, hspells, -⟩ := spells_numeral hx hpos
    exact hspells.legal

lemma denotes_numeral (hx : x.Finite) : x.numeral.Denotes x := by
  refine ⟨Numeral.negative_numeral _ _ _, ?_⟩
  rcases Nat.eq_zero_or_pos x.magnitude with hzero | hpos
  · rw [numeral, hzero, numeral_zero]
    simpa [Numeral.coefficient, Numeral.power, valueOf] using nearest_zero
  · obtain ⟨d, hspells, hnearest⟩ := spells_numeral hx hpos
    rwa [hspells.value]

theorem binary64?_numeral (hx : x.Finite) :
    ∃ y, x.numeral.binary64? = some y ∧ x.ReadBack y := by
  rcases Nat.eq_zero_or_pos x.magnitude with hzero | hpos
  · refine ⟨x, ?_, hx, rfl, by omega, fun _ => by omega, fun _ _ => rfl⟩
    have hnumeral : x.numeral = ⟨x.negative, [0], [0], none⟩ := by
      rw [numeral, hzero, numeral_zero]
    have hread : x.numeral.magnitude? = some 0 := by
      rw [hnumeral]
      rfl
    rw [Numeral.binary64?_of_magnitude? (by rw [hnumeral]; rfl) hread, hnumeral, ← hzero,
      ofParts_self]
  · obtain ⟨q, hread, hnear⟩ := readNear_numeral hx hpos
    obtain ⟨d, hspells, -⟩ := spells_numeral hx hpos
    have hq : q < 2 ^ 63 := hnear.finite.trans (by decide)
    have hnegative : x.numeral.negative = x.negative := Numeral.negative_numeral _ _ _
    refine ⟨_, Numeral.binary64?_of_magnitude? hspells.integer? hread, ?_⟩
    rw [hnegative]
    refine ⟨?_, negative_ofParts hq, ?_, ?_, fun hfits hsmall => ?_⟩
    · rw [Finite, magnitude_ofParts hq]
      exact hnear.finite
    · rw [magnitude_ofParts hq]
      exact hnear.near
    · rw [magnitude_ofParts hq]
      exact hnear.nearer
    · rw [hnear.exact hfits hsmall, ofParts_self]

end Binary64

end Telemetry.Number
