import Mathlib
import Telemetry.Command.Capture
import Telemetry.Proofs.Text.Hex

/-! Which texts spell which bytes in a captured file, and that these are the texts that are read. -/

namespace Telemetry.Command

open Text

def Gap (b : UInt8) : Prop :=
  b = 0x20 ∨ b = 0x09 ∨ b = 0x0A ∨ b = 0x0C ∨ b = 0x0D

instance : DecidablePred Gap :=
  fun b => inferInstanceAs (Decidable (b = 0x20 ∨ b = 0x09 ∨ b = 0x0A ∨ b = 0x0C ∨ b = 0x0D))

/-- Two digits for each byte, the higher one first, and gaps anywhere, also between the two. -/
inductive Spells : List UInt8 → List UInt8 → Prop
  | nil : Spells [] []
  | gap {g : UInt8} {raw bytes : List UInt8} : Gap g → Spells raw bytes → Spells (g :: raw) bytes
  | byte {high low b : UInt8} {h l : ℕ} {gaps raw bytes : List UInt8} : Hex.Digit high h →
      (∀ g ∈ gaps, Gap g) → Hex.Digit low l → b.toNat = 16 * h + l → Spells raw bytes →
      Spells (high :: gaps ++ low :: raw) (b :: bytes)

lemma isGap_iff (b : UInt8) : isGap b = true ↔ Gap b := by
  simp [isGap, Gap, or_assoc]

lemma Gap.toNat_lt {b : UInt8} (h : Gap b) : b.toNat < 0x30 := by
  rcases h with rfl | rfl | rfl | rfl | rfl <;> decide

lemma not_gap_of_digit {b : UInt8} {n : ℕ} (h : Hex.Digit b n) : ¬ Gap b := by
  intro hgap
  have hb := hgap.toNat_lt
  rw [Hex.digit_iff] at h
  omega

variable {raw bytes : List UInt8}

lemma Spells.behind_gaps {gaps : List UInt8} (hgaps : ∀ g ∈ gaps, Gap g) (h : Spells raw bytes) :
    Spells (gaps ++ raw) bytes := by
  induction gaps with
  | nil => exact h
  | cons g gaps ih =>
    rw [List.forall_mem_cons] at hgaps
    exact .gap hgaps.1 (ih hgaps.2)

def compact (raw : List UInt8) : List UInt8 :=
  raw.filter (!isGap ·)

lemma kept_iff (b : UInt8) : (!isGap b) = true ↔ ¬ Gap b := by
  rw [Bool.not_eq_true', ← isGap_iff, Bool.not_eq_true]

lemma compact_eq_filter (raw : List UInt8) : compact raw = raw.filter (¬ Gap ·) := by
  refine List.filter_congr fun b _ => ?_
  rw [Bool.eq_iff_iff, kept_iff, decide_eq_true_iff]

lemma compact_append (l₁ l₂ : List UInt8) : compact (l₁ ++ l₂) = compact l₁ ++ compact l₂ :=
  List.filter_append l₁ l₂

lemma compact_eq_nil_iff : compact raw = [] ↔ ∀ g ∈ raw, Gap g := by
  simp only [compact, List.filter_eq_nil_iff, kept_iff, Decidable.not_not]

lemma compact_cons_of_gap {b : UInt8} (h : Gap b) : compact (b :: raw) = compact raw :=
  List.filter_cons_of_neg fun hb => (kept_iff b).mp hb h

lemma compact_cons_of_not_gap {b : UInt8} (h : ¬ Gap b) : compact (b :: raw) = b :: compact raw :=
  List.filter_cons_of_pos ((kept_iff b).mpr h)

lemma mem_compact_iff (b : UInt8) : b ∈ compact raw ↔ b ∈ raw ∧ ¬ Gap b := by
  rw [compact, List.mem_filter, kept_iff]

lemma compact_eq_cons {b : UInt8} {rest : List UInt8} (h : compact raw = b :: rest) :
    ∃ gaps raw', raw = gaps ++ b :: raw' ∧ (∀ g ∈ gaps, Gap g) ∧ compact raw' = rest := by
  obtain ⟨gaps, raw', rfl, hgaps, -, hrest⟩ := List.filter_eq_cons_iff.mp h
  refine ⟨gaps, raw', rfl, fun g hg => ?_, hrest⟩
  exact Decidable.not_not.mp fun hgap => hgaps g hg ((kept_iff g).mpr hgap)

lemma Spells.pairs (h : Spells raw bytes) : Hex.Pairs (compact raw) bytes := by
  induction h with
  | nil => exact .nil
  | gap hgap _ ih => rwa [compact_cons_of_gap hgap]
  | byte hhigh hgaps hlow hb _ ih =>
    rw [List.cons_append, compact_cons_of_not_gap (not_gap_of_digit hhigh), compact_append,
      compact_eq_nil_iff.mpr hgaps, List.nil_append,
      compact_cons_of_not_gap (not_gap_of_digit hlow)]
    exact .cons hhigh hlow hb ih

lemma spells_of_pairs {text : List UInt8} (h : Hex.Pairs text bytes) (htext : compact raw = text) :
    Spells raw bytes := by
  induction h generalizing raw with
  | nil =>
    rw [← List.append_nil raw]
    exact Spells.nil.behind_gaps (compact_eq_nil_iff.mp htext)
  | cons hhigh hlow hb _ ih =>
    obtain ⟨front, raw, rfl, hfront, hrest⟩ := compact_eq_cons htext
    obtain ⟨gaps, raw, rfl, hgaps, hrest⟩ := compact_eq_cons hrest
    exact (Spells.byte hhigh hgaps hlow hb (ih hrest)).behind_gaps hfront

lemma spells_iff : Spells raw bytes ↔ Hex.Pairs (compact raw) bytes :=
  ⟨Spells.pairs, fun h => spells_of_pairs h rfl⟩

lemma exists_spells_iff (raw : List UInt8) : (∃ bytes, Spells raw bytes) ↔
    (compact raw).length % 2 = 0 ∧ ∀ b ∈ raw, Gap b ∨ ∃ n, Hex.Digit b n := by
  simp only [spells_iff, Hex.exists_pairs_iff, mem_compact_iff, and_imp, or_iff_not_imp_left]

lemma exists_text_of_spells (h : Spells raw bytes) : ∃ s, Utf8.decode raw = .ok s := by
  obtain ⟨-, hraw⟩ := (exists_spells_iff raw).mp ⟨bytes, h⟩
  refine Utf8.exists_decode_of_ascii fun b hb => ?_
  rcases hraw b hb with hgap | ⟨n, hn⟩
  · exact Nat.lt_trans hgap.toNat_lt (by decide)
  · rw [Hex.digit_iff] at hn
    omega

lemma spelled_eq_ok_iff (path : String) : spelled path raw = .ok bytes ↔ Spells raw bytes := by
  have hdecode : (Hex.decode (compact raw)).mapError (CommandError.notHex path) = .ok bytes ↔
      Spells raw bytes := by
    rw [spells_iff, ← Hex.decode_eq_ok_iff]
    cases Hex.decode (compact raw) <;> simp [Except.mapError]
  constructor
  · intro h
    unfold spelled at h
    split at h
    next => cases h
    next => exact hdecode.mp h
  · intro h
    obtain ⟨s, hs⟩ := exists_text_of_spells h
    rw [spelled, hs]
    exact hdecode.mpr h

lemma exists_error_iff (path : String) (raw : List UInt8) :
    (∃ e, spelled path raw = .error e) ↔ ¬ ∃ bytes, Spells raw bytes := by
  simp only [← spelled_eq_ok_iff path]
  cases spelled path raw <;> simp

lemma spells_of_digits {text : List UInt8} (h : Hex.Pairs text bytes) : Spells text bytes := by
  induction h with
  | nil => exact .nil
  | cons hhigh hlow hb _ ih => exact .byte hhigh (List.forall_mem_nil _) hlow hb ih

theorem capture_read_iff_spells {files : Files} {path : String} {raw : List UInt8}
    (hfile : files.read? path = some raw) :
    (∀ bytes, Capture.read files ⟨path, true⟩ = .ok bytes ↔ Spells raw bytes) ∧
    (∀ bytes, Spells (Utf8.encode (Hex.encode bytes)) bytes) ∧
    ((∃ e, Capture.read files ⟨path, true⟩ = .error e) ↔
      raw.countP (¬ Gap ·) % 2 = 1 ∨ ∃ b ∈ raw, ¬ Gap b ∧ ∀ n, ¬ Hex.Digit b n) ∧
    (∀ defect, Utf8.decode raw = .error defect →
      Capture.read files ⟨path, true⟩ = .error (.notText path defect)) ∧
    Capture.read files ⟨path, false⟩ = .ok raw := by
  have hhex : Capture.read files ⟨path, true⟩ = spelled path raw := by rw [Capture.read, hfile]; rfl
  have hraw : Capture.read files ⟨path, false⟩ = .ok raw := by rw [Capture.read, hfile]; rfl
  rw [hhex]
  refine ⟨fun bytes => spelled_eq_ok_iff path,
    fun bytes => spells_of_digits (Hex.pairs_encode bytes), ?_, ?_, hraw⟩
  · rw [exists_error_iff, exists_spells_iff, compact_eq_filter, ← List.countP_eq_length_filter]
    simp only [not_and_or, Nat.mod_two_not_eq_zero, not_forall, not_or, not_exists, exists_prop]
  · intro defect hdefect
    rw [spelled, hdefect]

def mixedText : List UInt8 := [0x20, 0x30, 0x61, 0x46, 0x0A, 0x66]

theorem capture_read_iff_spells_mixed :
    let files : Files := ⟨[], [(["x"], .file mixedText)]⟩
    files.read? "x" = some mixedText ∧ Capture.read files ⟨"x", true⟩ = .ok [0x0A, 0xFF] := by
  intro files
  have hfile : files.read? "x" = some mixedText := by cbv
  have hzero : Hex.Digit 0x30 0 := by decide
  have hten : Hex.Digit 0x61 10 := by decide
  have hupper : Hex.Digit 0x46 15 := by decide
  have hlower : Hex.Digit 0x66 15 := by decide
  have htext : Hex.Pairs (compact mixedText) [0x0A, 0xFF] :=
    .cons hzero hten rfl (.cons hupper hlower rfl .nil)
  exact ⟨hfile, ((capture_read_iff_spells hfile).1 _).mpr (spells_iff.mpr htext)⟩

end Telemetry.Command
