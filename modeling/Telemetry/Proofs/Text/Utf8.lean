import Mathlib.Data.Nat.Notation
import Mathlib.Tactic.Lemma
import Telemetry.Text.Utf8

/-! A text that was written in UTF-8 is read back, both strictly and with replacement. -/

namespace Telemetry.Text.Utf8

lemma continuation_zero (code seen : ℕ) (lo hi : UInt8) (bytes : List UInt8) :
    continuation code seen 0 lo hi bytes = .char code seen := by
  cases bytes <;> rfl

lemma continuation_succ {b lo hi : UInt8} (hlo : lo.toNat ≤ b.toNat) (hhi : b.toNat ≤ hi.toNat)
    (code seen count : ℕ) (bytes : List UInt8) :
    continuation code seen (count + 1) lo hi (b :: bytes) =
      continuation (code * 64 + b.toNat % 64) (seen + 1) count 0x80 0xBF bytes := by
  rw [continuation, if_pos ⟨UInt8.le_iff_toNat_le.mpr hlo, UInt8.le_iff_toNat_le.mpr hhi⟩]

def Continues (b : UInt8) : Prop :=
  0x80 ≤ b.toNat ∧ b.toNat ≤ 0xBF

lemma Continues.continuation {b : UInt8} (hb : Continues b) (code seen count : ℕ)
    (bytes : List UInt8) :
    continuation code seen (count + 1) 0x80 0xBF (b :: bytes) =
      continuation (code * 64 + b.toNat % 64) (seen + 1) count 0x80 0xBF bytes := by
  have hlo : (0x80 : UInt8).toNat ≤ b.toNat := hb.1
  have hhi : b.toNat ≤ (0xBF : UInt8).toNat := hb.2
  exact continuation_succ hlo hhi code seen count bytes

lemma lead_eq (b : UInt8) :
    lead b =
      if b.toNat < 0x80 then some (0, 0, 0)
      else if 0xC2 ≤ b.toNat ∧ b.toNat ≤ 0xDF then some (1, 0x80, 0xBF)
      else if b.toNat = 0xE0 then some (2, 0xA0, 0xBF)
      else if b.toNat = 0xED then some (2, 0x80, 0x9F)
      else if 0xE1 ≤ b.toNat ∧ b.toNat ≤ 0xEF then some (2, 0x80, 0xBF)
      else if b.toNat = 0xF0 then some (3, 0x90, 0xBF)
      else if b.toNat = 0xF4 then some (3, 0x80, 0x8F)
      else if 0xF1 ≤ b.toNat ∧ b.toNat ≤ 0xF3 then some (3, 0x80, 0xBF)
      else none := by
  simp only [lead, UInt8.lt_iff_toNat_lt, UInt8.le_iff_toNat_le, ← UInt8.toNat_inj]
  rfl

lemma decode_cons_of_lead {b : UInt8} (h : lead b = none) (bytes : List UInt8) :
    decode (b :: bytes) = .error (.invalid 0 1) := by
  have hstep : step b bytes = .invalid 1 := by simp only [step, h]
  simp only [decode, decodeFrom, hstep]

lemma step_one {b : UInt8} (hb : b.toNat < 0x80) (bytes : List UInt8) :
    step b bytes = .char b.toNat 1 := by
  have hlead : lead b = some (0, 0, 0) := by rw [lead_eq, if_pos hb]
  simp only [step, hlead]

lemma step_two {b c : UInt8} (hlo : 0xC2 ≤ b.toNat) (hhi : b.toNat ≤ 0xDF) (hc : Continues c)
    (bytes : List UInt8) :
    step b (c :: bytes) = .char (b.toNat % 32 * 64 + c.toNat % 64) 2 := by
  have hlead : lead b = some (1, 0x80, 0xBF) := by
    rw [lead_eq, if_neg (by omega), if_pos ⟨hlo, hhi⟩]
  simp only [step, hlead]
  rw [hc.continuation, continuation_zero]

lemma step_three {b c d : UInt8} (hlo : 0xE0 ≤ b.toNat) (hhi : b.toNat ≤ 0xEF)
    (hc : Continues c) (hd : Continues d) (hlong : b.toNat = 0xE0 → 0xA0 ≤ c.toNat)
    (hhalf : b.toNat = 0xED → c.toNat ≤ 0x9F) (bytes : List UInt8) :
    step b (c :: d :: bytes) =
      .char ((b.toNat % 16 * 64 + c.toNat % 64) * 64 + d.toNat % 64) 3 := by
  -- Three bytes must neither be a longer form of a shorter character nor one half of a pair.
  have hlead : ∃ lo hi, lead b = some (2, lo, hi) ∧ lo.toNat ≤ c.toNat ∧ c.toNat ≤ hi.toNat := by
    rw [lead_eq, if_neg (by omega), if_neg (by omega)]
    by_cases hE0 : b.toNat = 0xE0
    · rw [if_pos hE0]
      exact ⟨_, _, rfl, hlong hE0, hc.2⟩
    · by_cases hED : b.toNat = 0xED
      · rw [if_neg hE0, if_pos hED]
        exact ⟨_, _, rfl, hc.1, hhalf hED⟩
      · rw [if_neg hE0, if_neg hED, if_pos (by omega)]
        exact ⟨_, _, rfl, hc⟩
  obtain ⟨lo, hi, hlead, hclo, hchi⟩ := hlead
  simp only [step, hlead]
  rw [continuation_succ hclo hchi, hd.continuation, continuation_zero]

lemma step_four {b c d e : UInt8} (hlo : 0xF0 ≤ b.toNat) (hhi : b.toNat ≤ 0xF4)
    (hc : Continues c) (hd : Continues d) (he : Continues e)
    (hlong : b.toNat = 0xF0 → 0x90 ≤ c.toNat) (hlast : b.toNat = 0xF4 → c.toNat ≤ 0x8F)
    (bytes : List UInt8) :
    step b (c :: d :: e :: bytes) =
      .char (((b.toNat % 8 * 64 + c.toNat % 64) * 64 + d.toNat % 64) * 64 + e.toNat % 64) 4 := by
  -- Four bytes must neither be a longer form of a shorter character nor exceed the last one.
  have hlead : ∃ lo hi, lead b = some (3, lo, hi) ∧ lo.toNat ≤ c.toNat ∧ c.toNat ≤ hi.toNat := by
    rw [lead_eq, if_neg (by omega), if_neg (by omega), if_neg (by omega), if_neg (by omega),
      if_neg (by omega)]
    by_cases hF0 : b.toNat = 0xF0
    · rw [if_pos hF0]
      exact ⟨_, _, rfl, hlong hF0, hc.2⟩
    · by_cases hF4 : b.toNat = 0xF4
      · rw [if_neg hF0, if_pos hF4]
        exact ⟨_, _, rfl, hc.1, hlast hF4⟩
      · rw [if_neg hF0, if_neg hF4, if_pos (by omega)]
        exact ⟨_, _, rfl, hc⟩
  obtain ⟨lo, hi, hlead, hclo, hchi⟩ := hlead
  simp only [step, hlead]
  rw [continuation_succ hclo hchi, hd.continuation, he.continuation, continuation_zero]

lemma toNat_tail (n : ℕ) : (UInt8.ofNat (n % 64 + 128)).toNat = n % 64 + 128 := by
  rw [UInt8.toNat_ofNat']
  omega

lemma continues_tail (n : ℕ) : Continues (UInt8.ofNat (n % 64 + 128)) := by
  rw [Continues, toNat_tail]
  omega

lemma step_utf8EncodeChar (c : Char) :
    ∃ b tail, String.utf8EncodeChar c = b :: tail ∧
      ∀ bytes, step b (tail ++ bytes) = .char c.toNat (tail.length + 1) := by
  have hvalid : c.toNat < 0xD800 ∨ 0xDFFF < c.toNat ∧ c.toNat < 0x110000 := c.valid
  have hcode : c.val.toNat = c.toNat := rfl
  rw [String.utf8EncodeChar, hcode]
  generalize c.toNat = v at hvalid
  by_cases h1 : v ≤ 127
  · have hb : (UInt8.ofNat v).toNat = v := by
      rw [UInt8.toNat_ofNat']
      omega
    refine ⟨_, _, if_pos h1, fun bytes => ?_⟩
    rw [step_one (by omega), hb]
    rfl
  by_cases h2 : v ≤ 2047
  · have hb : (UInt8.ofNat (v / 64 % 32 + 192)).toNat = v / 64 % 32 + 192 := by
      rw [UInt8.toNat_ofNat']
      omega
    refine ⟨_, _, (if_neg h1).trans (if_pos h2), fun bytes => ?_⟩
    refine (step_two (by omega) (by omega) (continues_tail v) bytes).trans ?_
    rw [hb, toNat_tail]
    congr 1
    omega
  by_cases h3 : v ≤ 65535
  · have hb : (UInt8.ofNat (v / 4096 % 16 + 224)).toNat = v / 4096 % 16 + 224 := by
      rw [UInt8.toNat_ofNat']
      omega
    refine ⟨_, _, (if_neg h1).trans ((if_neg h2).trans (if_pos h3)), fun bytes => ?_⟩
    have hc := toNat_tail (v / 64)
    refine (step_three (by omega) (by omega) (continues_tail (v / 64)) (continues_tail v)
      (by omega) (by omega) bytes).trans ?_
    rw [hb, hc, toNat_tail]
    congr 1
    omega
  · have hb : (UInt8.ofNat (v / 262144 % 8 + 240)).toNat = v / 262144 % 8 + 240 := by
      rw [UInt8.toNat_ofNat']
      omega
    refine ⟨_, _, (if_neg h1).trans ((if_neg h2).trans (if_neg h3)), fun bytes => ?_⟩
    have hc := toNat_tail (v / 4096)
    refine (step_four (by omega) (by omega) (continues_tail (v / 4096))
      (continues_tail (v / 64)) (continues_tail v) (by omega) (by omega) bytes).trans ?_
    rw [hb, hc, toNat_tail, toNat_tail]
    congr 1
    omega

lemma decodeFrom_flatMap (chars : List Char) (index : ℕ) (seen : List Char) :
    decodeFrom index seen (chars.flatMap String.utf8EncodeChar) = .ok (seen.reverse ++ chars) := by
  induction chars generalizing index seen with
  | nil => simp [decodeFrom]
  | cons c chars ih =>
    obtain ⟨b, tail, hc, hstep⟩ := step_utf8EncodeChar c
    rw [List.flatMap_cons, hc, List.cons_append, decodeFrom, hstep]
    simp [ih]

lemma decodeLossyFrom_flatMap (chars seen : List Char) :
    decodeLossyFrom seen (chars.flatMap String.utf8EncodeChar) = seen.reverse ++ chars := by
  induction chars generalizing seen with
  | nil => simp [decodeLossyFrom]
  | cons c chars ih =>
    obtain ⟨b, tail, hc, hstep⟩ := step_utf8EncodeChar c
    rw [List.flatMap_cons, hc, List.cons_append, decodeLossyFrom, hstep]
    simp [ih]

lemma decode_encode (s : String) : decode (encode s) = .ok s := by
  rw [decode, encode, decodeFrom_flatMap]
  simp

lemma decodeLossy_encode (s : String) : decodeLossy (encode s) = s := by
  rw [decodeLossy, encode, decodeLossyFrom_flatMap]
  simp

lemma exists_decodeFrom_of_ascii {bytes : List UInt8} (h : ∀ b ∈ bytes, b.toNat < 0x80) (index : ℕ)
    (seen : List Char) : ∃ chars, decodeFrom index seen bytes = .ok chars := by
  induction bytes generalizing index seen with
  | nil => exact ⟨_, decodeFrom.eq_1 index seen⟩
  | cons b bytes ih =>
    rw [List.forall_mem_cons] at h
    rw [decodeFrom, step_one h.1]
    exact ih h.2 _ _

lemma exists_decode_of_ascii {bytes : List UInt8} (h : ∀ b ∈ bytes, b.toNat < 0x80) :
    ∃ s, decode bytes = .ok s := by
  obtain ⟨chars, hchars⟩ := exists_decodeFrom_of_ascii h 0 []
  exact ⟨_, by rw [decode, hchars]⟩

end Telemetry.Text.Utf8
