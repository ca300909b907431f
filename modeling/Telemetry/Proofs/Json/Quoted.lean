import Mathlib.Data.Nat.Notation
import Mathlib.Tactic.Lemma
import Telemetry.Json.Parser

namespace Telemetry

namespace Text

lemma hexValue?_digit (n : ℕ) : hexValue? (Hex.digit n) = some (n % 16) := by
  have hdigit : ∀ k < 16, hexValue? (Nat.digitChar k) = some k := by decide
  exact hdigit (n % 16) (Nat.mod_lt n (by decide))

end Text

namespace Json

def Piece.Means (p : Piece) (c : Char) : Prop :=
  ∀ seen ps, assemble seen (p :: ps) = assemble (c :: seen) ps

lemma Piece.means_char (c : Char) : (Piece.char c).Means c :=
  fun _ _ => rfl

lemma Piece.means_unit {c : Char} (hc : c.toNat < 0x20) : (Piece.unit c.toNat).Means c := by
  have hhigh : isHighSurrogate c.toNat = false := by
    simp only [isHighSurrogate, Bool.and_eq_false_iff, decide_eq_false_iff_not]
    omega
  have hlow : isLowSurrogate c.toNat = false := by
    simp only [isLowSurrogate, Bool.and_eq_false_iff, decide_eq_false_iff_not]
    omega
  intro seen ps
  cases ps with
  | nil => simp [assemble, hhigh, hlow]
  | cons p ps => cases p <;> simp [assemble, hhigh, hlow]

def escapes : List (Char × Char) :=
  [('"', '"'), ('\\', '\\'), ('\n', 'n'), ('\r', 'r'), ('\t', 't'), ('\x08', 'b'), ('\x0c', 'f')]

lemma escape_of_mem : ∀ e ∈ escapes,
    escape e.1 = ['\\', e.2] ∧ e.2 ≠ 'u' ∧ simpleEscape? e.2 = some e.1 := by
  decide

lemma escape_of_forall_ne {c : Char} (h : ∀ e ∈ escapes, c ≠ e.1) :
    c ≠ '"' ∧ c ≠ '\\' ∧ escape c = if c.toNat < 0x20 then
      ['\\', 'u', '0', '0', Text.Hex.digit (c.toNat / 16), Text.Hex.digit c.toNat] else [c] := by
  simp only [escapes, List.forall_mem_cons] at h
  obtain ⟨hquote, hslash, hn, hr, ht, hb, hf, -⟩ := h
  refine ⟨hquote, hslash, ?_⟩
  simp only [escape, hquote, hslash, hn, hr, ht, hb, hf, if_false]

lemma pieces_simple {c d : Char} (hc : c ≠ 'u') (hd : simpleEscape? c = some d)
    (seen : List Piece) (cs : List Char) :
    pieces seen ('\\' :: c :: cs) = pieces (.char d :: seen) cs := by
  rw [pieces.eq_def]
  split <;> grind

lemma pieces_unit {c : Char} (hc : c.toNat < 0x20) (seen : List Piece) (cs : List Char) :
    pieces seen ('\\' :: 'u' :: '0' :: '0' :: Text.Hex.digit (c.toNat / 16) ::
      Text.Hex.digit c.toNat :: cs) = pieces (.unit c.toNat :: seen) cs := by
  have hzero : Text.hexValue? '0' = some 0 := by decide
  have hvalue : c.toNat / 16 % 16 * 16 + c.toNat % 16 = c.toNat := by omega
  simp only [pieces, hzero, Text.hexValue?_digit, Nat.zero_mul, Nat.zero_add, hvalue]

lemma pieces_plain {c : Char} (hquote : c ≠ '"') (hslash : c ≠ '\\') (hc : ¬ c.toNat < 0x20)
    (seen : List Piece) (cs : List Char) :
    pieces seen (c :: cs) = pieces (.char c :: seen) cs := by
  rw [pieces.eq_def]
  split <;> grind

lemma exists_piece (c : Char) : ∃ p : Piece, p.Means c ∧
    ∀ seen cs, pieces seen (escape c ++ cs) = pieces (p :: seen) cs := by
  by_cases hmem : ∃ e ∈ escapes, e.1 = c
  · obtain ⟨e, he, rfl⟩ := hmem
    obtain ⟨hescape, hu, hsimple⟩ := escape_of_mem e he
    rw [hescape]
    exact ⟨.char e.1, Piece.means_char e.1, pieces_simple hu hsimple⟩
  · obtain ⟨hquote, hslash, hescape⟩ :=
      escape_of_forall_ne fun e he heq => hmem ⟨e, he, heq.symm⟩
    rw [hescape]
    by_cases hc : c.toNat < 0x20
    · rw [if_pos hc]
      exact ⟨.unit c.toNat, Piece.means_unit hc, pieces_unit hc⟩
    · rw [if_neg hc]
      exact ⟨.char c, Piece.means_char c, pieces_plain hquote hslash hc⟩

lemma exists_pieces (s : List Char) (rest : List Char) (seen : List Piece) :
    ∃ ps, pieces seen (s.flatMap escape ++ '"' :: rest) = some (seen.reverse ++ ps, rest) ∧
      ∀ before, assemble before ps = some (before.reverse ++ s) := by
  induction s generalizing seen with
  | nil => exact ⟨[], by simp [pieces], fun before => by simp [assemble]⟩
  | cons c s ih =>
    obtain ⟨p, hmeans, hread⟩ := exists_piece c
    obtain ⟨ps, hps, hs⟩ := ih (p :: seen)
    refine ⟨p :: ps, ?_, ?_⟩
    · rw [List.flatMap_cons, List.append_assoc, hread, hps]
      simp
    · intro before
      rw [hmeans, hs]
      simp

lemma quoted_quote (s : Option String) (rest : List Char) :
    ∃ cs, quote s ++ rest = '"' :: cs ∧ quoted cs = some (s, rest) := by
  cases s with
  | none => exact ⟨_, rfl, rfl⟩
  | some s =>
    obtain ⟨ps, hps, hs⟩ := exists_pieces s.toList rest []
    refine ⟨s.toList.flatMap escape ++ '"' :: rest, by simp [quote], ?_⟩
    simp [quoted, hps, hs]

end Json

end Telemetry
