import Mathlib.Data.List.Forall2
import Mathlib.Tactic.Lemma
import Mathlib.Tactic.SplitIfs
import Telemetry.Command.Inspect

/-! The outline of a payload has a line for each field that is visited, and nothing that stands in
the payload makes a line or breaks one. -/

namespace Telemetry

def OneLine (s : String) : Prop :=
  '\n' ∉ s.toList

instance (s : String) : Decidable (OneLine s) :=
  inferInstanceAs (Decidable ('\n' ∉ s.toList))

section OneLine

lemma oneLine_ofList_iff {cs : List Char} : OneLine (String.ofList cs) ↔ '\n' ∉ cs := by
  rw [OneLine, String.toList_ofList]

lemma oneLine_append_iff {s t : String} : OneLine (s ++ t) ↔ OneLine s ∧ OneLine t := by
  rw [OneLine, String.toList_append, List.mem_append, not_or, OneLine, OneLine]

lemma newline_ne_digitChar : ∀ n < 16, '\n' ≠ Nat.digitChar n := by
  decide

lemma newline_not_mem_toDigits {base : Nat} (hbase : 1 < base) (hle : base ≤ 16) (n : Nat) :
    '\n' ∉ Nat.toDigits base n := by
  induction n using Nat.strongRecOn with
  | ind n ih =>
    have hpos : 0 < base := Nat.lt_of_succ_lt hbase
    rcases Nat.lt_or_ge n base with hlt | hge
    · rw [Nat.toDigits_of_lt_base hlt, List.mem_singleton]
      exact newline_ne_digitChar n (Nat.lt_of_lt_of_le hlt hle)
    · rw [Nat.toDigits_of_base_le hbase hge, List.mem_append, List.mem_singleton]
      have hquotient := ih _ (Nat.div_lt_self (Nat.lt_of_lt_of_le hpos hge) hbase)
      have hlast := newline_ne_digitChar _ (Nat.lt_of_lt_of_le (Nat.mod_lt n hpos) hle)
      exact not_or.mpr ⟨hquotient, hlast⟩

lemma oneLine_nat (n : Nat) : OneLine (toString n) :=
  oneLine_ofList_iff.mpr (newline_not_mem_toDigits (by decide) (by decide) n)

lemma oneLine_int : ∀ i : Int, OneLine (toString i)
  | .ofNat n => oneLine_nat n
  | .negSucc n => oneLine_append_iff.mpr ⟨by decide, oneLine_nat (n + 1)⟩

end OneLine

namespace Number

lemma newline_not_mem_digits (ds : List Digit) : '\n' ∉ ds.map Digit.char := by
  have hdigit : ∀ d : Digit, Digit.char d ≠ '\n' := by decide
  rw [List.mem_map]
  rintro ⟨d, -, hd⟩
  exact hdigit d hd

lemma Numeral.oneLine_text (n : Numeral) : OneLine n.text := by
  obtain ⟨negative, whole, fraction, exponent⟩ := n
  rw [text, oneLine_ofList_iff]
  have hwhole := newline_not_mem_digits whole
  have hfraction := newline_not_mem_digits fraction
  cases exponent with
  | none => cases negative <;> cases fraction <;> simp_all [chars]
  | some e =>
    have hexponent := newline_not_mem_digits e.2
    rcases e with ⟨_ | _, digits⟩ <;> cases negative <;> cases fraction <;> simp_all [chars]

lemma Layout.oneLine_text (layout : Layout) (f : Format) (m : Meaning) :
    OneLine (layout.text f m) := by
  cases m with
  | nan => exact (by decide : OneLine "NaN")
  | infinite negative =>
    cases negative with
    | false => exact (by decide : OneLine "inf")
    | true => exact (by decide : OneLine "-inf")
  | finite => exact Numeral.oneLine_text _

end Number

namespace Text

lemma Quoted.newline_not_mem_escape (mark c : Char) : '\n' ∉ escape mark c := by
  unfold escape byCode
  split_ifs with _ _ hnewline
  · simp
  · simp
  · simp
  · simp
  · simpa using fun h => hnewline h.symm
  · simpa using newline_not_mem_toDigits (by decide) (by decide) c.toNat
  · simpa using fun h => hnewline h.symm

lemma oneLine_quoted (s : String) : OneLine (quoted s) := by
  rw [quoted, oneLine_ofList_iff]
  simp [Quoted.encode, Quoted.newline_not_mem_escape]

lemma Hex.oneLine_encode (bytes : List UInt8) : OneLine (encode bytes) := by
  rw [encode, oneLine_ofList_iff]
  simp [digit, newline_ne_digitChar, Nat.mod_lt]

end Text

namespace Command

open Number Text Wire

lemma oneLine_lowerHex (width n : Nat) : OneLine (lowerHex width n) := by
  rw [lowerHex, oneLine_ofList_iff]
  simp [List.leftpad, newline_not_mem_toDigits]

lemma oneLine_describe (p : Payload) : OneLine (describe p) := by
  cases p with
  | varint raw =>
    simp only [describe, oneLine_append_iff]
    exact ⟨⟨⟨oneLine_nat _, by decide⟩, oneLine_int _⟩, by decide⟩
  | fixed32 raw =>
    simp only [describe, oneLine_append_iff]
    exact ⟨⟨⟨⟨by decide, oneLine_lowerHex _ _⟩, by decide⟩, Layout.oneLine_text _ _ _⟩, by decide⟩
  | fixed64 raw =>
    simp only [describe, oneLine_append_iff]
    exact ⟨⟨⟨⟨by decide, oneLine_lowerHex _ _⟩, by decide⟩, Layout.oneLine_text _ _ _⟩, by decide⟩
  | bytes raw =>
    rw [describe]
    split
    next text _ => exact oneLine_quoted text
    next => exact oneLine_append_iff.mpr ⟨by decide, Hex.oneLine_encode raw⟩

lemma oneLine_label (f : Field) : OneLine (label f) := by
  simp only [label, oneLine_append_iff]
  refine ⟨⟨⟨⟨by decide, oneLine_nat _⟩, by decide⟩, ?_⟩, by decide⟩
  cases f.wireType <;> decide

section Visits

def Opens (depth : Nat) (f : Field) (inner : Message) : Prop :=
  depth < 8 ∧ ∃ raw, f.payload = .bytes raw ∧ raw ≠ [] ∧ Message.decode raw = .ok inner

/-- The fields of a message, each followed by those of the message that is opened in it, with their
depths. -/
inductive Visits : Nat → Message → List (Nat × Field) → Prop
  | nil (depth : Nat) : Visits depth [] []
  | closed {depth : Nat} {f : Field} {m : Message} {visits : List (Nat × Field)} :
      (∀ inner, ¬ Opens depth f inner) → Visits depth m visits →
      Visits depth (f :: m) ((depth, f) :: visits)
  | opened {depth : Nat} {f : Field} {inner m : Message} {within visits : List (Nat × Field)} :
      Opens depth f inner → Visits (depth + 1) inner within → Visits depth m visits →
      Visits depth (f :: m) ((depth, f) :: within ++ visits)

variable {depth : Nat} {f : Field} {inner m : Message} {visits visits' : List (Nat × Field)}

lemma Opens.unique {inner' : Message} (h : Opens depth f inner) (h' : Opens depth f inner') :
    inner' = inner := by
  obtain ⟨-, raw, hraw, -, hinner⟩ := h
  obtain ⟨-, raw', hraw', -, hinner'⟩ := h'
  obtain rfl := Payload.bytes.inj (hraw.symm.trans hraw')
  exact Except.ok.inj (hinner'.symm.trans hinner)

lemma Visits.unique (h : Visits depth m visits) (h' : Visits depth m visits') :
    visits' = visits := by
  induction h generalizing visits' with
  | nil =>
    cases h'
    rfl
  | closed hclosed _ ih =>
    cases h' with
    | closed _ hrest => rw [ih hrest]
    | opened hopens => exact absurd hopens (hclosed _)
  | opened hopens _ _ ihinner ih =>
    cases h' with
    | closed hclosed => exact absurd hopens (hclosed _)
    | opened hopens' hinner hrest =>
      obtain rfl := hopens.unique hopens'
      rw [ihinner hinner, ih hrest]

lemma exists_visits (depth : Nat) : ∀ m : Message, ∃ visits, Visits depth m visits
  | [] => ⟨[], .nil depth⟩
  | f :: m => by
    obtain ⟨visits, hvisits⟩ := exists_visits depth m
    by_cases h : ∃ inner, Opens depth f inner
    · obtain ⟨inner, hinner⟩ := h
      have hdepth : depth < 8 := hinner.1
      obtain ⟨within, hwithin⟩ := exists_visits (depth + 1) inner
      exact ⟨_, .opened hinner hwithin hvisits⟩
    · exact ⟨_, .closed (not_exists.mp h) hvisits⟩
termination_by m => (8 - depth, m.length)
decreasing_by
  · exact Prod.Lex.right _ (Nat.lt_succ_self _)
  · exact Prod.Lex.left _ _ (by omega)

end Visits

section Lines

def Heads (visit : Nat × Field) (line : List Char) : Prop :=
  '\n' ∉ line ∧ List.replicate (2 * visit.1) ' ' ++
    ("#" ++ toString visit.2.number ++ " " ++ visit.2.wireType.name ++ ": ").toList <+: line

def indentation (depth : Nat) : String :=
  String.ofList (List.replicate (2 * depth) ' ')

variable {depth levels : Nat} {f : Field} {inner m : Message} {visits : List (Nat × Field)}
  {indent : String}

lemma indentation_succ (depth : Nat) : indentation (depth + 1) = indentation depth ++ "  " := by
  rw [indentation, Nat.mul_succ, List.replicate_add, String.ofList_append]
  rfl

lemma embedded?_eq_some_iff {p : Payload} {raw : List UInt8} :
    embedded? p = some (raw, inner) ↔
      p = .bytes raw ∧ raw ≠ [] ∧ Message.decode raw = .ok inner := by
  cases p with
  | bytes bytes =>
    simp only [embedded?, List.isEmpty_iff, Payload.bytes.injEq]
    constructor
    · intro h
      split_ifs at h with hempty
      split at h
      next hm =>
        obtain ⟨rfl, rfl⟩ := Prod.mk.inj (Option.some.inj h)
        exact ⟨rfl, hempty, hm⟩
      next => cases h
    · rintro ⟨rfl, hempty, hm⟩
      simp [hempty, hm]
  | varint | fixed64 | fixed32 => simp [embedded?]

lemma outline_nil (indent : String) (levels : Nat) : outline indent levels [] = [] := by
  cases levels <;> rfl

lemma outline_closed (hlevels : depth + levels = 8) (hclosed : ∀ inner, ¬ Opens depth f inner) :
    outline indent levels (f :: m) =
      (indent ++ label f ++ describe f.payload) :: outline indent levels m := by
  cases levels with
  | zero => rfl
  | succ levels =>
    have hdepth : depth < 8 := by omega
    have hnone : embedded? f.payload = none := by
      rw [Option.eq_none_iff_forall_ne_some]
      rintro ⟨raw, inner⟩ hsome
      exact hclosed inner ⟨hdepth, raw, embedded?_eq_some_iff.mp hsome⟩
    rw [outline, outline, List.flatMap_cons, hnone]
    rfl

lemma outline_opened {raw : List UInt8} (hsome : embedded? f.payload = some (raw, inner)) :
    outline indent (levels + 1) (f :: m) =
      (indent ++ label f ++ ("message (" ++ toString raw.length ++ " bytes)")) ::
        outline (indent ++ "  ") levels inner ++ outline indent (levels + 1) m := by
  rw [outline, outline, List.flatMap_cons, hsome]
  simp only [String.append_assoc]

lemma heads_line {rest : String} (hrest : OneLine rest) :
    Heads (depth, f) (indentation depth ++ label f ++ rest).toList := by
  have hblanks : OneLine (indentation depth) := by
    rw [indentation, oneLine_ofList_iff]
    simp
  have hline : (indentation depth ++ label f ++ rest).toList =
      List.replicate (2 * depth) ' ' ++ (label f).toList ++ rest.toList := by
    rw [indentation, String.toList_append, String.toList_append, String.toList_ofList]
  exact ⟨oneLine_append_iff.mpr ⟨oneLine_append_iff.mpr ⟨hblanks, oneLine_label f⟩, hrest⟩,
    rest.toList, hline.symm⟩

lemma Visits.heads_outline (h : Visits depth m visits) (hlevels : depth + levels = 8) :
    List.Forall₂ Heads visits ((outline (indentation depth) levels m).map String.toList) := by
  -- As many levels are left to open as the depth leaves, so the outline goes where the visits go.
  induction h generalizing levels with
  | nil => simp [outline_nil]
  | @closed depth f m visits hclosed _ ih =>
    rw [outline_closed hlevels hclosed, List.map_cons]
    exact .cons (heads_line (oneLine_describe _)) (ih hlevels)
  | @opened depth f inner m within visits hopens _ _ ihinner ih =>
    obtain ⟨hdepth, raw, hraw⟩ := hopens
    obtain ⟨levels, rfl⟩ : ∃ k, levels = k + 1 := ⟨levels - 1, by omega⟩
    have hbytes : OneLine ("message (" ++ toString raw.length ++ " bytes)") := by
      simp only [oneLine_append_iff]
      exact ⟨⟨by decide, oneLine_nat _⟩, by decide⟩
    rw [outline_opened (embedded?_eq_some_iff.mpr hraw), ← indentation_succ, List.map_append,
      List.map_cons]
    exact .cons (heads_line hbytes) (List.rel_append (ihinner (by omega)) (ih hlevels))

end Lines

/-- The outline of a payload. The visited fields have a line each, in their order, which is indented
by their depth and begins with their number and type. No line is more than one, whatever texts the
payload holds. -/
theorem outline_lines {payload : List UInt8} {m : Message} (hm : Message.decode payload = .ok m) :
    (∃! visits, Visits 0 m visits) ∧
    ∀ visits, Visits 0 m visits → ∃ lines : List (List Char),
      List.Forall₂ Heads visits lines ∧
      (unlines (outline "" maxDepth m)).toList = lines.flatMap (· ++ ['\n']) ∧
      ∀ (capture : Capture) (files : Files), capture.read files = .ok payload →
        capture.inspect files = .ok (unlines (outline "" maxDepth m)) := by
  constructor
  · obtain ⟨visits, hvisits⟩ := exists_visits 0 m
    exact ⟨visits, hvisits, fun _ => hvisits.unique⟩
  · intro visits hvisits
    have hheads : List.Forall₂ Heads visits ((outline "" maxDepth m).map String.toList) :=
      hvisits.heads_outline rfl
    refine ⟨_, hheads, ?_, fun capture files hread => ?_⟩
    · rw [unlines, String.toList_ofList, List.flatMap_map]
    · rw [Capture.inspect, hread]
      simp only [hm]

def forgedPayload : List UInt8 := [18, 5, 10, 3, 10, 35, 49]

theorem outline_lines_forged :
    ∃ m, Message.decode forgedPayload = .ok m ∧
    ∃ lines : List (List Char), lines.length = 2 ∧
      (unlines (outline "" maxDepth m)).toList = lines.flatMap (· ++ ['\n']) := by
  have hm : Message.decode forgedPayload = .ok [⟨2, .bytes [10, 3, 10, 35, 49]⟩] := by cbv
  have hinner : Message.decode [10, 3, 10, 35, 49] = .ok [⟨1, .bytes [10, 35, 49]⟩] := by cbv
  have htext : Message.decode [10, 35, 49] = .error (.truncatedBytes 1 35 1 2) := by cbv
  have hclosed : ∀ inner, ¬ Opens 1 ⟨1, .bytes [10, 35, 49]⟩ inner := by
    rintro inner ⟨-, raw, hraw, -, hinner⟩
    obtain rfl := Payload.bytes.inj hraw
    cases htext.symm.trans hinner
  have hopens : Opens 0 ⟨2, .bytes [10, 3, 10, 35, 49]⟩ [⟨1, .bytes [10, 35, 49]⟩] :=
    ⟨by decide, _, rfl, by simp, hinner⟩
  obtain ⟨lines, hheads, houtline, -⟩ :=
    (outline_lines hm).2 _ (.opened hopens (.closed hclosed (.nil 1)) (.nil 0))
  exact ⟨_, hm, lines, hheads.length_eq.symm, houtline⟩

end Command

end Telemetry
