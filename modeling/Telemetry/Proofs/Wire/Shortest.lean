import Telemetry.Proofs.Wire.Writer

/-! A number has many spellings as a varint. The one that is written is the shortest, and any other
ends in an empty group or takes all ten bytes. -/

namespace Telemetry.Wire.Varint

lemma value_encodeNat (n : ℕ) : value (encodeNat n) = n := by
  rw [value_eq_positional, positional_encodeNat]

lemma length_encodeNat_le_iff (n k : ℕ) : (encodeNat n).length ≤ k + 1 ↔ n < 128 ^ (k + 1) := by
  constructor
  · intro hlen
    have hlt := value_lt (encodeNat n)
    rw [value_encodeNat] at hlt
    exact hlt.trans_le (Nat.pow_le_pow_right (by decide) hlen)
  · exact length_encodeNat_le

lemma encodedLength_le_iff (v : UInt64) (k : ℕ) :
    encodedLength v ≤ k + 1 ↔ v.toNat < 128 ^ (k + 1) := by
  have hone : 1 ≤ v.toNat ||| 1 := Nat.right_le_or
  have hpow : (128 : ℕ) ^ (k + 1) = 2 ^ (7 * (k + 1)) := (pow_mul 2 7 (k + 1)).symm
  have hgroups : encodedLength v ≤ k + 1 ↔ Nat.log2 (v.toNat ||| 1) < 7 * (k + 1) := by
    unfold encodedLength
    omega
  rw [hgroups, Nat.log2_lt (by omega), hpow]
  constructor
  · exact Nat.left_le_or.trans_lt
  · intro hlt
    exact Nat.or_lt_two_pow hlt (Nat.one_lt_two_pow (by omega))

lemma encodedLength_pos (v : UInt64) : 0 < encodedLength v := by
  unfold encodedLength
  omega

lemma length_encode (v : UInt64) : (encode v).length = encodedLength v := by
  obtain ⟨j, hj⟩ := Nat.exists_eq_succ_of_ne_zero (spells_encode v).length_pos.ne'
  obtain ⟨k, hk⟩ := Nat.exists_eq_succ_of_ne_zero (encodedLength_pos v).ne'
  have hle : encodedLength v ≤ j + 1 :=
    (encodedLength_le_iff v j).mpr ((length_encodeNat_le_iff v.toNat j).mp hj.le)
  have hge : (encode v).length ≤ k + 1 :=
    (length_encodeNat_le_iff v.toNat k).mpr ((encodedLength_le_iff v k).mp hk.le)
  omega

variable {digits : List UInt8} {v : UInt64}

def Tight (digits : List UInt8) : Prop :=
  digits.getLast? ≠ some 0 ∨ digits.length = 1

lemma encodeNat_value (ht : Terminated digits) (hlast : Tight digits) :
    encodeNat (value digits) = digits := by
  induction digits with
  | nil => exact (terminated_nil ht).elim
  | cons b digits ih =>
    have hvalue : value (b :: digits) = b.toNat % 128 + 128 * value digits := rfl
    rcases (terminated_cons b digits).mp ht with ⟨hb, rfl⟩ | ⟨hb, ht⟩
    · have hsingle : value [b] = b.toNat := by
        rw [hvalue, Nat.mod_eq_of_lt hb]
        rfl
      rw [hsingle, encodeNat, if_pos hb, UInt8.ofNat_toNat]
    · have hne : digits ≠ [] := fun h => terminated_nil (h ▸ ht)
      have hlast : digits.getLast? ≠ some 0 := by
        rcases hlast with h | h
        · rwa [List.getLast?_cons_of_ne_nil hne] at h
        · exact absurd h (by simp [hne])
      have hrest := ih ht (Or.inl hlast)
      have hpos : value digits ≠ 0 := by
        intro hzero
        rw [hzero, encodeNat, if_pos (by decide)] at hrest
        exact hlast (hrest ▸ rfl)
      have hbyte := b.toNat_lt
      have hlow : (b.toNat % 128 + 128 * value digits) % 128 + 128 = b.toNat := by omega
      have hhigh : (b.toNat % 128 + 128 * value digits) / 128 = value digits := by omega
      rw [hvalue, encodeNat, if_neg (by omega), hlow, hhigh, hrest, UInt8.ofNat_toNat]

lemma Spells.eq_encode (h : Spells digits v) (hshort : digits.length < 10) (hlast : Tight digits) :
    digits = encode v := by
  -- Nine bytes hold no more bits than a word does.
  have hpow : (128 : ℕ) ^ digits.length ≤ 128 ^ 9 := Nat.pow_le_pow_right (by decide) (by omega)
  have hlt := value_lt digits
  have hv := h.toNat_eq
  rw [← value_eq_positional, Nat.mod_eq_of_lt (by omega)] at hv
  rw [encode, hv, encodeNat_value h.terminated hlast]

lemma value_eq_sum (digits : List UInt8) :
    value digits = (digits.mapIdx fun i b => b.toNat % 128 * 2 ^ (7 * i)).sum := by
  simp only [value_eq_positional, positional, pow_mul]
  rfl

theorem shortest_and_delimited :
    (∀ (v : UInt64) (offset : ℕ) (rest : List UInt8),
      readVarint offset (encode v ++ rest) = .ok (v, encodedLength v, rest) ∧
      (encode v).length = encodedLength v ∧ 1 ≤ encodedLength v ∧ encodedLength v ≤ 10) ∧
    ∀ (offset : ℕ) (bytes rest : List UInt8) (v : UInt64) (n : ℕ),
      readVarint offset bytes = .ok (v, n, rest) →
      1 ≤ n ∧ n ≤ 10 ∧ n ≤ bytes.length ∧ rest = bytes.drop n ∧
      (∀ offset' bytes', bytes'.take n = bytes.take n →
        readVarint offset' bytes' = .ok (v, n, bytes'.drop n)) ∧
      v.toNat = ((bytes.take n).mapIdx fun i b => b.toNat % 128 * 2 ^ (7 * i)).sum % 2 ^ 64 ∧
      encodedLength v ≤ n ∧
      (n < 10 → (bytes.take n).getLast? ≠ some 0 ∨ n = 1 → bytes.take n = encode v) := by
  constructor
  · intro v offset rest
    have hread := readVarint_append (spells_encode v) offset rest
    have hlen := (spells_encode v).length_le
    rw [length_encode] at hread hlen
    exact ⟨hread, length_encode v, encodedLength_pos v, hlen⟩
  · intro offset bytes rest v n hread
    obtain ⟨digits, rfl, rfl, hv⟩ := readVarint_sound hread
    have hsum := hv.toNat_eq
    rw [← value_eq_positional, value_eq_sum] at hsum
    have hleast : (encode v).length ≤ digits.length := hv.encodeNat_length_le le_rfl
    rw [length_encode] at hleast
    rw [List.take_left, List.drop_left]
    refine ⟨hv.length_pos, hv.length_le, by simp, rfl, ?_, hsum, hleast, hv.eq_encode⟩
    intro offset' bytes' htake
    obtain ⟨rest', rfl⟩ : digits <+: bytes' := List.prefix_iff_eq_take.mpr htake.symm
    rw [List.drop_left]
    exact readVarint_append hv offset' rest'

theorem shortest_and_delimited_overlong :
    readVarint 7 [150, 129, 0, 255] = .ok (150, 3, [255]) ∧ encodedLength 150 ≤ 3 ∧
    readVarint 7 [150, 1, 255] = .ok (150, 2, [255]) ∧ [150, 1] = encode 150 := by
  have hlong : readVarint 7 [150, 129, 0, 255] = .ok (150, 3, [255]) := by cbv
  have hshort : readVarint 7 [150, 1, 255] = .ok (150, 2, [255]) := by cbv
  obtain ⟨-, -, -, -, -, -, hleast, -⟩ := shortest_and_delimited.2 _ _ _ _ _ hlong
  obtain ⟨-, -, -, -, -, -, -, hwritten⟩ := shortest_and_delimited.2 _ _ _ _ _ hshort
  exact ⟨hlong, hleast, hshort, hwritten (by decide) (Or.inl (by decide))⟩

end Telemetry.Wire.Varint
