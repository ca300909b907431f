import Mathlib.Algebra.BigOperators.Group.List.Basic
import Mathlib.Tactic.Ring
import Telemetry.Wire.Varint

namespace Telemetry.Wire

def positional (base : ℕ) (digit : UInt8 → ℕ) (bytes : List UInt8) : ℕ :=
  (bytes.mapIdx fun i b => digit b * base ^ i).sum

lemma positional_cons (base : ℕ) (digit : UInt8 → ℕ) (b : UInt8) (bytes : List UInt8) :
    positional base digit (b :: bytes) = digit b + base * positional base digit bytes := by
  have hshift : ∀ l : List UInt8, ∀ k, (l.mapIdx fun i b => digit b * base ^ (i + k + 1)).sum =
      base * (l.mapIdx fun i b => digit b * base ^ (i + k)).sum := by
    intro l
    induction l with
    | nil => simp
    | cons a l ih =>
      intro k
      have hk := ih (k + 1)
      simp only [List.mapIdx_cons, List.sum_cons, Nat.zero_add, Nat.mul_add,
        Nat.add_right_comm _ 1, ← Nat.add_assoc] at hk ⊢
      rw [hk]
      ring
  simpa [positional, List.mapIdx_cons] using hshift bytes 0

lemma positional_lt {base : ℕ} {digit : UInt8 → ℕ} (hdigit : ∀ b, digit b < base)
    (bytes : List UInt8) : positional base digit bytes < base ^ bytes.length := by
  induction bytes with
  | nil => simp [positional]
  | cons b bytes ih =>
    have hb := hdigit b
    have hmul : base * (positional base digit bytes + 1) ≤ base * base ^ bytes.length :=
      Nat.mul_le_mul_left base ih
    rw [positional_cons, List.length_cons, pow_succ']
    rw [Nat.mul_add] at hmul
    omega

lemma foldr_eq_positional (base : ℕ) (digit : UInt8 → ℕ) (bytes : List UInt8) :
    bytes.foldr (fun b n => digit b + base * n) 0 = positional base digit bytes := by
  induction bytes with
  | nil => rfl
  | cons b bytes ih => rw [List.foldr_cons, ih, positional_cons]

namespace Varint

def Terminated (digits : List UInt8) : Prop :=
  ∃ init last, digits = init ++ [last] ∧ (∀ b ∈ init, 128 ≤ b.toNat) ∧ last.toNat < 128

/-- The bytes are a terminated varint with the value `v`: seven bits a byte, of which a word keeps
the low 64. -/
structure Spells (digits : List UInt8) (v : UInt64) : Prop where
  length_le : digits.length ≤ 10
  terminated : Terminated digits
  toNat_eq : v.toNat = positional 128 (fun b => b.toNat % 128) digits % 2 ^ 64

lemma value_eq_positional (digits : List UInt8) :
    value digits = positional 128 (fun b => b.toNat % 128) digits :=
  foldr_eq_positional 128 (fun b => b.toNat % 128) digits

lemma value_lt (digits : List UInt8) : value digits < 128 ^ digits.length := by
  have hdigit : ∀ b : UInt8, b.toNat % 128 < 128 := fun b => Nat.mod_lt _ (by decide)
  rw [value_eq_positional]
  exact positional_lt hdigit digits

lemma terminated_nil : ¬ Terminated [] := by
  rintro ⟨init, last, h, -, -⟩
  simp at h

lemma terminated_cons (b : UInt8) (digits : List UInt8) :
    Terminated (b :: digits) ↔
      b.toNat < 128 ∧ digits = [] ∨ 128 ≤ b.toNat ∧ Terminated digits := by
  constructor
  · rintro ⟨init, last, h, hinit, hlast⟩
    cases init with
    | nil =>
      obtain ⟨rfl, rfl⟩ : b = last ∧ digits = [] := by simpa using h
      exact Or.inl ⟨hlast, rfl⟩
    | cons a init =>
      obtain ⟨rfl, rfl⟩ : b = a ∧ digits = init ++ [last] := by simpa using h
      exact Or.inr ⟨hinit b (by simp), init, last, rfl, fun c hc => hinit c (by simp [hc]), hlast⟩
  · rintro (⟨hb, rfl⟩ | ⟨hb, init, last, rfl, hinit, hlast⟩)
    · exact ⟨[], b, rfl, by simp, hb⟩
    · exact ⟨b :: init, last, rfl, by simpa using ⟨hb, hinit⟩, hlast⟩

lemma Spells.length_pos {digits : List UInt8} {v : UInt64} (h : Spells digits v) :
    0 < digits.length := by
  obtain ⟨init, last, rfl, -, -⟩ := h.terminated
  simp

lemma Spells.toNat_lt {digits : List UInt8} {v : UInt64} (h : Spells digits v) :
    v.toNat < 128 ^ digits.length := by
  rw [h.toNat_eq, ← value_eq_positional]
  exact (Nat.mod_le _ _).trans_lt (value_lt digits)

lemma split_terminated {room : ℕ} {bytes digits rest : List UInt8}
    (h : split room bytes = .ok (digits, rest)) : digits.length ≤ room ∧ Terminated digits := by
  fun_induction split room bytes generalizing digits with
  | case1 => simp at h
  | case2 => simp at h
  | case3 room b bytes hb =>
    obtain ⟨rfl, rfl⟩ : [b] = digits ∧ bytes = rest := by simpa using h
    exact ⟨by simp, (terminated_cons b []).mpr (Or.inl ⟨UInt8.lt_iff_toNat_lt.mp hb, rfl⟩)⟩
  | case4 room b bytes hb ds r hs ih =>
    obtain ⟨rfl, rfl⟩ : b :: ds = digits ∧ r = rest := by simpa using h
    obtain ⟨hlen, ht⟩ := ih hs
    rw [UInt8.lt_iff_toNat_lt, not_lt] at hb
    exact ⟨by simpa using hlen, (terminated_cons b ds).mpr (Or.inr ⟨hb, ht⟩)⟩
  | case5 => simp at h

lemma split_of_terminated {room : ℕ} {digits : List UInt8} (ht : Terminated digits)
    (hlen : digits.length ≤ room) (rest : List UInt8) :
    split room (digits ++ rest) = .ok (digits, rest) := by
  induction digits generalizing room with
  | nil => exact (terminated_nil ht).elim
  | cons b digits ih =>
    obtain ⟨room, rfl⟩ : ∃ k, room = k + 1 := ⟨room - 1, by simp at hlen; omega⟩
    rcases (terminated_cons b digits).mp ht with ⟨hb, rfl⟩ | ⟨hb, ht⟩
    · have hlt : b < 128 := UInt8.lt_iff_toNat_lt.mpr hb
      simp [split, hlt]
    · have hge : ¬ b < 128 := fun hlt => Nat.not_lt.mpr hb (UInt8.lt_iff_toNat_lt.mp hlt)
      simp [split, hge, ih ht (by simpa using hlen)]

lemma ofNat_value_eq_iff (digits : List UInt8) (v : UInt64) :
    UInt64.ofNat (value digits) = v ↔
      v.toNat = positional 128 (fun b => b.toNat % 128) digits % 2 ^ 64 := by
  rw [← value_eq_positional, ← UInt64.toNat_inj, UInt64.toNat_ofNat', eq_comm]

lemma read_sound {bytes rest : List UInt8} {v : UInt64} {n : ℕ}
    (h : read bytes = .ok (v, n, rest)) :
    ∃ digits, bytes = digits ++ rest ∧ digits.length = n ∧ Spells digits v := by
  unfold read at h
  split at h
  next digits r hs =>
    obtain ⟨hlen, ht⟩ := split_terminated hs
    obtain ⟨hv, hn, rfl⟩ : UInt64.ofNat (value digits) = v ∧ digits.length = n ∧ r = rest := by
      simpa using h
    exact ⟨digits, (split_append hs).1, hn, hlen, ht, (ofNat_value_eq_iff digits v).mp hv⟩
  next => simp at h

lemma read_append {digits : List UInt8} {v : UInt64} (h : Spells digits v) (rest : List UInt8) :
    read (digits ++ rest) = .ok (v, digits.length, rest) := by
  have hs : split maxLength (digits ++ rest) = .ok (digits, rest) :=
    split_of_terminated h.terminated h.length_le rest
  simp only [read, hs, (ofNat_value_eq_iff digits v).mpr h.toNat_eq]

lemma Spells.value_unique {digits : List UInt8} {v v' : UInt64} (h : Spells digits v)
    (h' : Spells digits v') : v = v' :=
  UInt64.toNat_inj.mp (h.toNat_eq.trans h'.toNat_eq.symm)

lemma Spells.append_inj {p p' r r' : List UInt8} {v v' : UInt64} (h : Spells p v)
    (h' : Spells p' v') (he : p ++ r = p' ++ r') : p = p' ∧ v = v' ∧ r = r' := by
  have hread := read_append h r
  rw [he, read_append h' r'] at hread
  obtain ⟨rfl, hlen, rfl⟩ : v' = v ∧ p'.length = p.length ∧ r' = r := by simpa using hread
  exact ⟨(List.append_inj he hlen.symm).1, rfl, rfl⟩

end Varint

end Telemetry.Wire
