import Telemetry.Proofs.Text.Utf8
import Telemetry.Text.Hex

namespace Telemetry.Text.Hex

def Digit (b : UInt8) (n : ℕ) : Prop :=
  n < 10 ∧ b.toNat = '0'.toNat + n ∨
    10 ≤ n ∧ n < 16 ∧ (b.toNat = 'a'.toNat + (n - 10) ∨ b.toNat = 'A'.toNat + (n - 10))

inductive Pairs : List UInt8 → List UInt8 → Prop
  | nil : Pairs [] []
  | cons {high low b : UInt8} {h l : ℕ} {text bytes : List UInt8} : Digit high h → Digit low l →
      b.toNat = 16 * h + l → Pairs text bytes → Pairs (high :: low :: text) (b :: bytes)

lemma digit_iff (b : UInt8) (n : ℕ) : Digit b n ↔
    n < 10 ∧ b.toNat = 48 + n ∨
      10 ≤ n ∧ n < 16 ∧ (b.toNat = 97 + (n - 10) ∨ b.toNat = 65 + (n - 10)) :=
  Iff.rfl

instance (b : UInt8) (n : ℕ) : Decidable (Digit b n) := decidable_of_iff _ (digit_iff b n).symm

lemma Digit.lt {b : UInt8} {n : ℕ} (h : Digit b n) : n < 16 := by
  rw [digit_iff] at h
  omega

lemma toNat_char (b : UInt8) : (Char.ofNat b.toNat).toNat = b.toNat := by
  have hb := b.toNat_lt
  rw [Char.ofNat, dif_pos (Or.inl (by omega))]
  rfl

lemma hexValue?_eq (c : Char) : hexValue? c =
    if 48 ≤ c.toNat ∧ c.toNat ≤ 57 then some (c.toNat - 48)
    else if 97 ≤ c.toNat ∧ c.toNat ≤ 102 then some (c.toNat - 87)
    else if 65 ≤ c.toNat ∧ c.toNat ≤ 70 then some (c.toNat - 55)
    else none := by
  simp only [hexValue?, Char.le_def, UInt32.le_iff_toNat_le]
  rfl

lemma hexValue?_eq_some_iff (b : UInt8) (n : ℕ) :
    hexValue? (Char.ofNat b.toNat) = some n ↔ Digit b n := by
  rw [hexValue?_eq, toNat_char, digit_iff]
  split
  · rw [Option.some.injEq]
    omega
  split
  · rw [Option.some.injEq]
    omega
  split
  · rw [Option.some.injEq]
    omega
  · simp only [reduceCtorEq, false_iff]
    omega

lemma digit?_of_digit {b : UInt8} {n : ℕ} (h : Digit b n) : digit? b = some (UInt8.ofNat n) := by
  rw [digit?, (hexValue?_eq_some_iff b n).mpr h]
  rfl

lemma exists_digit_of_digit? {b d : UInt8} (h : digit? b = some d) :
    ∃ n, Digit b n ∧ d = UInt8.ofNat n := by
  obtain ⟨n, hn, rfl⟩ := Option.map_eq_some_iff.mp h
  exact ⟨n, (hexValue?_eq_some_iff b n).mp hn, rfl⟩

lemma toNat_pair {high low : UInt8} {h l : ℕ} (hhigh : Digit high h) (hlow : Digit low l) :
    (UInt8.ofNat h * 16 + UInt8.ofNat l).toNat = 16 * h + l := by
  have hh := hhigh.lt
  have hl := hlow.lt
  rw [UInt8.toNat_add, UInt8.toNat_mul, UInt8.toNat_ofNat', UInt8.toNat_ofNat']
  change (h % 256 * 16 % 256 + l % 256) % 256 = 16 * h + l
  omega

variable {text bytes : List UInt8}

lemma decodeFrom_of_pairs (h : Pairs text bytes) (position : ℕ) (seen : List UInt8) :
    decodeFrom position seen text = .ok (seen.reverse ++ bytes) := by
  induction h generalizing position seen with
  | nil => rw [decodeFrom, List.append_nil]
  | @cons high low b h l text bytes hhigh hlow hb _ ih =>
    have hpair : UInt8.ofNat h * 16 + UInt8.ofNat l = b := by
      rw [← UInt8.toNat_inj, toNat_pair hhigh hlow, hb]
    simp only [decodeFrom, digit?_of_digit hhigh, digit?_of_digit hlow, hpair]
    simpa using ih (position + 2) (b :: seen)

lemma pairs_of_decodeFrom {position : ℕ} {seen : List UInt8}
    (h : decodeFrom position seen text = .ok bytes) :
    ∃ rest, Pairs text rest ∧ bytes = seen.reverse ++ rest := by
  fun_induction decodeFrom position seen text with
  | case1 =>
    cases h
    exact ⟨[], .nil, (List.append_nil _).symm⟩
  | case2 | case3 | case4 => cases h
  | case5 position seen high low text h' l' hl hh ih =>
    obtain ⟨rest, hrest, rfl⟩ := ih h
    obtain ⟨n, hhigh, rfl⟩ := exists_digit_of_digit? hh
    obtain ⟨m, hlow, rfl⟩ := exists_digit_of_digit? hl
    exact ⟨_, .cons hhigh hlow (toNat_pair hhigh hlow) hrest, by simp⟩

lemma Pairs.length_eq (h : Pairs text bytes) : text.length = 2 * bytes.length := by
  induction h with
  | nil => rfl
  | cons _ _ _ _ ih =>
    rw [List.length_cons, List.length_cons, List.length_cons, ih]
    omega

lemma decode_eq_ok_iff : decode text = .ok bytes ↔ Pairs text bytes := by
  unfold decode
  split
  next =>
    constructor
    · intro h
      obtain ⟨rest, hrest, rfl⟩ := pairs_of_decodeFrom h
      exact hrest
    · exact fun h => decodeFrom_of_pairs h 0 []
  next hodd =>
    constructor
    · intro h
      cases h
    · intro h
      have := h.length_eq
      omega

lemma Pairs.digits (h : Pairs text bytes) : ∀ b ∈ text, ∃ n, Digit b n := by
  induction h with
  | nil => simp
  | cons hhigh hlow _ _ ih =>
    rw [List.forall_mem_cons, List.forall_mem_cons]
    exact ⟨⟨_, hhigh⟩, ⟨_, hlow⟩, ih⟩

lemma exists_pairs : (text : List UInt8) → text.length % 2 = 0 → (∀ b ∈ text, ∃ n, Digit b n) →
    ∃ bytes, Pairs text bytes
  | [], _, _ => ⟨[], .nil⟩
  | [b], heven, _ => absurd heven (by simp)
  | high :: low :: text, heven, hdigits => by
    rw [List.forall_mem_cons, List.forall_mem_cons] at hdigits
    obtain ⟨⟨h, hhigh⟩, ⟨l, hlow⟩, hdigits⟩ := hdigits
    have hrest : text.length % 2 = 0 := by
      simp only [List.length_cons] at heven
      omega
    obtain ⟨bytes, hbytes⟩ := exists_pairs text hrest hdigits
    exact ⟨_, .cons hhigh hlow (toNat_pair hhigh hlow) hbytes⟩

lemma exists_pairs_iff (text : List UInt8) : (∃ bytes, Pairs text bytes) ↔
    text.length % 2 = 0 ∧ ∀ b ∈ text, ∃ n, Digit b n := by
  constructor
  · rintro ⟨bytes, h⟩
    have hlen := h.length_eq
    exact ⟨by omega, h.digits⟩
  · rintro ⟨heven, hdigits⟩
    exact exists_pairs text heven hdigits

lemma pairs_encode (bytes : List UInt8) : Pairs (Utf8.encode (encode bytes)) bytes := by
  have hdigit : ∀ n, ∃ b, String.utf8EncodeChar (digit n) = [b] ∧ Digit b (n % 16) := by
    intro n
    have hsmall : ∀ k < 16, String.utf8EncodeChar (Nat.digitChar k) =
        [UInt8.ofNat (if k < 10 then 48 + k else 87 + k)] := by decide
    have hk := Nat.mod_lt n (show 0 < 16 by decide)
    refine ⟨_, hsmall (n % 16) hk, ?_⟩
    rw [digit_iff, UInt8.toNat_ofNat']
    split <;> omega
  rw [Utf8.encode, encode, String.toList_ofList, List.flatMap_assoc]
  induction bytes with
  | nil => exact .nil
  | cons b bytes ih =>
    obtain ⟨high, hhigh, hh⟩ := hdigit (b.toNat / 16)
    obtain ⟨low, hlow, hl⟩ := hdigit b.toNat
    have hb := b.toNat_lt
    rw [List.flatMap_cons]
    simp only [List.flatMap_cons, List.flatMap_nil, hhigh, hlow, List.cons_append, List.nil_append]
    exact .cons hh hl (by omega) (by simpa using ih)

end Telemetry.Text.Hex
