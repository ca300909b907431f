import Telemetry.Proofs.Json.Quoted
import Telemetry.Proofs.Number.Decimal

/-! A document that is written without blanks is read back as it was. -/

namespace Telemetry.Json

open Number

def Closes (rest : List Char) : Prop :=
  ∀ c ∈ rest.head?, c = ',' ∨ c = ']' ∨ c = '\x7d' ∨ c = '\n'

section Numeral

variable {rest : List Char}

lemma digit?_char (d : Digit) : digit? d.char = some d := by
  decide +revert

lemma digits_map_char (ds : List Digit) (hrest : ∀ c ∈ rest.head?, digit? c = none) :
    digits (ds.map Digit.char ++ rest) = (ds, rest) := by
  induction ds with
  | nil =>
    cases rest with
    | nil => rfl
    | cons c rest => simp [digits, hrest c rfl]
  | cons d ds ih => simp [digits, digit?_char, ih]

lemma digits1_map_char {ds : List Digit} (hds : ds ≠ [])
    (hrest : ∀ c ∈ rest.head?, digit? c = none) :
    digits1 (ds.map Digit.char ++ rest) = some (ds, rest) := by
  cases ds with
  | nil => exact absurd rfl hds
  | cons d ds => simp only [digits1, digits_map_char (d :: ds) hrest]

lemma whole_map_char {n : Numeral} (hn : n.Legal) (hrest : ∀ c ∈ rest.head?, digit? c = none) :
    whole (n.whole.map Digit.char ++ rest) = some (n.whole, rest) := by
  rw [whole, digits1_map_char hn.whole_ne_nil hrest]
  split
  next d ds _ heq =>
    exact absurd (congrArg Prod.fst (Option.some.inj heq)) (hn.no_leading_zero d ds)
  next => rfl

def fractionChars (ds : List Digit) : List Char :=
  if ds.isEmpty then [] else '.' :: ds.map Digit.char

def exponentChars : Option (Bool × List Digit) → List Char
  | none => []
  | some (negative, ds) => 'e' :: (if negative then '-' else '+') :: ds.map Digit.char

lemma chars_eq (n : Numeral) : n.chars = (if n.negative then ['-'] else []) ++
    (n.whole.map Digit.char ++ (fractionChars n.fraction ++ exponentChars n.exponent)) := by
  simp only [Numeral.chars, fractionChars, List.append_assoc]
  rfl

lemma Closes.digit?_eq_none (h : Closes rest) : ∀ c ∈ rest.head?, digit? c = none := by
  intro c hc
  rcases h c hc with rfl | rfl | rfl | rfl <;> rfl

lemma Closes.head?_exponentChars (h : Closes rest) (e : Option (Bool × List Digit)) :
    ∀ c ∈ (exponentChars e ++ rest).head?, digit? c = none ∧ c ≠ '.' := by
  intro c hc
  cases e with
  | none => rcases h c hc with rfl | rfl | rfl | rfl <;> decide
  | some e =>
    obtain rfl : 'e' = c := Option.some.inj hc
    decide

lemma exponent_chars {e : Option (Bool × List Digit)}
    (he : ∀ negative ds, e = some (negative, ds) → ds ≠ []) (hrest : Closes rest) :
    exponent (exponentChars e ++ rest) = some (e, rest) := by
  cases e with
  | none =>
    cases rest with
    | nil => rfl
    | cons c rest =>
      have hc : ¬ (c = 'e' ∨ c = 'E') := by
        rcases hrest c rfl with rfl | rfl | rfl | rfl <;> decide
      simp [exponentChars, exponent, hc]
  | some e =>
    obtain ⟨negative, ds⟩ := e
    have hds := digits1_map_char (he negative ds rfl) hrest.digit?_eq_none
    cases negative <;> simp [exponentChars, exponent, sign, hds]

lemma fraction_chars (ds : List Digit) {cs : List Char}
    (hcs : ∀ c ∈ cs.head?, digit? c = none ∧ c ≠ '.') :
    fraction (fractionChars ds ++ cs) = some (ds, cs) := by
  cases ds with
  | nil =>
    change fraction cs = some ([], cs)
    rw [fraction.eq_def]
    split
    next cs => exact absurd rfl (hcs '.' rfl).2
    next => rfl
  | cons d ds =>
    exact digits1_map_char (List.cons_ne_nil d ds) fun c hc => (hcs c hc).1

lemma head?_fractionChars (ds : List Digit) {cs : List Char}
    (hcs : ∀ c ∈ cs.head?, digit? c = none ∧ c ≠ '.') :
    ∀ c ∈ (fractionChars ds ++ cs).head?, digit? c = none := by
  intro c hc
  cases ds with
  | nil => exact (hcs c hc).1
  | cons d ds =>
    obtain rfl : '.' = c := Option.some.inj hc
    decide

def unsigned (negative : Bool) (cs : List Char) : Option (Numeral × List Char) := do
  let (w, cs) ← whole cs
  let (f, cs) ← fraction cs
  let (e, cs) ← exponent cs
  return (⟨negative, w, f, e⟩, cs)

lemma numeral_minus (cs : List Char) : numeral ('-' :: cs) = unsigned true cs := rfl

lemma numeral_char (d : Digit) (cs : List Char) :
    numeral (d.char :: cs) = unsigned false (d.char :: cs) := by
  have hminus : d.char ≠ '-' := by decide +revert
  generalize d.char = c at hminus
  rw [numeral, unsigned]
  exact fun ds h => hminus (List.cons.inj h).1

lemma numeral_chars {n : Numeral} (hn : n.Legal) (hrest : Closes rest) :
    numeral (n.chars ++ rest) = some (n, rest) := by
  have hends := hrest.head?_exponentChars n.exponent
  have hwhole := whole_map_char hn (head?_fractionChars n.fraction hends)
  have hfraction := fraction_chars n.fraction hends
  have hexponent := exponent_chars hn.exponent_ne_nil hrest
  have hunsigned : unsigned n.negative (n.whole.map Digit.char ++
      (fractionChars n.fraction ++ (exponentChars n.exponent ++ rest))) = some (n, rest) := by
    simp [unsigned, hwhole, hfraction, hexponent]
  rw [chars_eq, List.append_assoc, List.append_assoc, List.append_assoc]
  cases hnegative : n.negative with
  | true => exact (numeral_minus _).trans (hnegative ▸ hunsigned)
  | false =>
    obtain ⟨d, ds, hd⟩ := List.exists_cons_of_ne_nil hn.whole_ne_nil
    rw [hd] at hunsigned ⊢
    exact (numeral_char d _).trans (hnegative ▸ hunsigned)

end Numeral

section Head

variable {c : Char}

def Opens (c : Char) : Prop :=
  isBlank c = false ∧ c ≠ ']'

instance (c : Char) : Decidable (Opens c) :=
  inferInstanceAs (Decidable (_ ∧ _))

lemma skipBlanks_cons (hc : isBlank c = false) (cs : List Char) : skipBlanks (c :: cs) = c :: cs :=
  List.dropWhile_cons_of_neg (Bool.not_eq_true _ ▸ hc)

lemma exists_char_or_minus {n : Numeral} (hn : n.Legal) :
    ∃ c cs, n.chars = c :: cs ∧ (c = '-' ∨ ∃ d : Digit, c = d.char) := by
  rw [chars_eq]
  cases n.negative with
  | true => exact ⟨'-', _, rfl, .inl rfl⟩
  | false =>
    obtain ⟨d, ds, hd⟩ := List.exists_cons_of_ne_nil hn.whole_ne_nil
    rw [hd]
    exact ⟨d.char, _, rfl, .inr ⟨d, rfl⟩⟩

lemma value_numeral (hc : c = '-' ∨ ∃ d : Digit, c = d.char) (fuel : ℕ) (cs : List Char) :
    value (fuel + 1) (c :: cs) = (numeral (c :: cs)).map fun (n, cs) => (.number n, cs) := by
  have hhead : isBlank c = false ∧ c ≠ 'n' ∧ c ≠ 't' ∧ c ≠ 'f' ∧ c ≠ '"' ∧ c ≠ '[' ∧
      c ≠ '\x7b' := by
    rcases hc with rfl | ⟨d, rfl⟩
    · decide
    · decide +revert
  rw [value, skipBlanks_cons hhead.1]
  split <;> grind

end Head

mutual

def Value.Legal : Value → Prop
  | .number n => n.Legal
  | .array vs => legalElements vs
  | .object ms => legalMembers ms
  | _ => True

def legalElements : List Value → Prop
  | [] => True
  | v :: vs => v.Legal ∧ legalElements vs

def legalMembers : List (Option String × Value) → Prop
  | [] => True
  | (_, v) :: ms => v.Legal ∧ legalMembers ms

end

structure Value.Read (v : Value) : Prop where
  opens : ∃ c cs, v.chars = c :: cs ∧ Opens c
  value_chars : ∀ fuel rest, v.chars.length ≤ fuel → Closes rest →
    value fuel (v.chars ++ rest) = some (v, rest)

lemma Value.Read.of_head {v : Value} {c : Char} {cs : List Char} (hcs : v.chars = c :: cs)
    (hc : Opens c) (h : ∀ fuel rest, cs.length ≤ fuel → Closes rest →
      value (fuel + 1) (c :: (cs ++ rest)) = some (v, rest)) : v.Read := by
  refine ⟨⟨c, cs, hcs, hc⟩, fun fuel rest hfuel hrest => ?_⟩
  rw [hcs] at hfuel ⊢
  cases fuel with
  | zero => exact absurd hfuel (by simp)
  | succ fuel => exact h fuel rest (Nat.le_of_succ_le_succ hfuel) hrest

lemma closes_moreElements (vs : List Value) (rest : List Char) :
    Closes (moreElements vs ++ rest) := by
  intro c hc
  cases vs with
  | nil => exact .inr (.inl (Option.some.inj hc).symm)
  | cons v vs => exact .inl (Option.some.inj hc).symm

lemma closes_moreMembers (ms : List (Option String × Value)) (rest : List Char) :
    Closes (moreMembers ms ++ rest) := by
  intro c hc
  cases ms with
  | nil => exact .inr (.inr (.inl (Option.some.inj hc).symm))
  | cons m ms => exact .inl (Option.some.inj hc).symm

lemma elements_last {fuel : ℕ} {cs tail rest : List Char} {v : Value}
    (hv : value fuel cs = some (v, tail)) (htail : skipBlanks tail = ']' :: rest) :
    elements (fuel + 1) cs = some ([v], rest) := by
  simp [elements, hv, htail]

lemma elements_more {fuel : ℕ} {cs more rest : List Char} {v : Value} {vs : List Value}
    (hv : value fuel cs = some (v, ',' :: more)) (hvs : elements fuel more = some (vs, rest)) :
    elements (fuel + 1) cs = some (v :: vs, rest) := by
  have hcomma : skipBlanks (',' :: more) = ',' :: more := rfl
  simp [elements, hv, hvs, hcomma]

-- One step of the fuel is spent on every element, and every element has a character in front.
lemma elements_chars {v : Value} {vs : List Value} (h : ∀ w ∈ v :: vs, w.Read) {fuel : ℕ}
    {rest : List Char} (hfuel : v.chars.length + (moreElements vs).length ≤ fuel) :
    elements fuel (v.chars ++ (moreElements vs ++ rest)) = some (v :: vs, rest) := by
  have hv := (h v List.mem_cons_self).value_chars
  induction vs generalizing v fuel with
  | nil =>
    simp only [moreElements, List.length_singleton] at hfuel
    cases fuel with
    | zero => omega
    | succ fuel => exact elements_last (hv fuel _ (by omega) (closes_moreElements [] rest)) rfl
  | cons w ws ih =>
    simp only [moreElements, List.cons_append, List.length_append, List.length_cons] at hfuel
    cases fuel with
    | zero => omega
    | succ fuel =>
      have hws : ∀ u ∈ w :: ws, u.Read := fun u hu => h u (List.mem_cons_of_mem v hu)
      have hmore : elements fuel (w.chars ++ (moreElements ws ++ rest)) = some (w :: ws, rest) :=
        ih hws (by omega) (hws w List.mem_cons_self).value_chars
      rw [← List.append_assoc] at hmore
      exact elements_more (hv fuel _ (by omega) (closes_moreElements (w :: ws) rest)) hmore

lemma members_last {fuel : ℕ} {cs tail rest : List Char} {v : Value}
    (hv : value fuel cs = some (v, tail)) (htail : skipBlanks tail = '\x7d' :: rest)
    (k : Option String) : members (fuel + 1) (quote k ++ ':' :: cs) = some ([(k, v)], rest) := by
  obtain ⟨inner, hquote, hquoted⟩ := quoted_quote k (':' :: cs)
  have hopen : skipBlanks ('"' :: inner) = '"' :: inner := rfl
  have hcolon : skipBlanks (':' :: cs) = ':' :: cs := rfl
  simp [hquote, members, hopen, hquoted, hcolon, hv, htail]

lemma members_more {fuel : ℕ} {cs more rest : List Char} {v : Value}
    {ms : List (Option String × Value)} (hv : value fuel cs = some (v, ',' :: more))
    (hms : members fuel more = some (ms, rest)) (k : Option String) :
    members (fuel + 1) (quote k ++ ':' :: cs) = some ((k, v) :: ms, rest) := by
  obtain ⟨inner, hquote, hquoted⟩ := quoted_quote k (':' :: cs)
  have hopen : skipBlanks ('"' :: inner) = '"' :: inner := rfl
  have hcolon : skipBlanks (':' :: cs) = ':' :: cs := rfl
  have hcomma : skipBlanks (',' :: more) = ',' :: more := rfl
  simp [hquote, members, hopen, hquoted, hcolon, hv, hcomma, hms]

lemma members_chars {k : Option String} {v : Value} {ms : List (Option String × Value)}
    (hv : v.Read) (h : ∀ m ∈ ms, m.2.Read) {fuel : ℕ} {rest : List Char}
    (hfuel : v.chars.length + (moreMembers ms).length ≤ fuel) :
    members fuel (quote k ++ ':' :: (v.chars ++ (moreMembers ms ++ rest))) =
      some ((k, v) :: ms, rest) := by
  induction ms generalizing k v fuel with
  | nil =>
    simp only [moreMembers, List.length_singleton] at hfuel
    cases fuel with
    | zero => omega
    | succ fuel =>
      exact members_last (hv.value_chars fuel _ (by omega) (closes_moreMembers [] rest)) rfl k
  | cons m ms ih =>
    obtain ⟨l, w⟩ := m
    simp only [moreMembers, List.cons_append, List.length_append, List.length_cons] at hfuel
    cases fuel with
    | zero => omega
    | succ fuel =>
      have hw : w.Read := h (l, w) List.mem_cons_self
      have hmore : members fuel (quote l ++ ':' :: (w.chars ++ (moreMembers ms ++ rest))) =
          some ((l, w) :: ms, rest) :=
        ih hw (fun n hn => h n (List.mem_cons_of_mem _ hn)) (by omega)
      have hlist : moreMembers ((l, w) :: ms) ++ rest =
          ',' :: (quote l ++ ':' :: (w.chars ++ (moreMembers ms ++ rest))) := by
        simp [moreMembers]
      have hvalue := hv.value_chars fuel _ (by omega) (closes_moreMembers ((l, w) :: ms) rest)
      rw [hlist] at hvalue ⊢
      exact members_more hvalue hmore k

lemma Value.read_null : Value.null.Read :=
  .of_head rfl (by decide) fun _ _ _ _ => rfl

lemma Value.read_bool (b : Bool) : (Value.bool b).Read := by
  cases b with
  | false => exact .of_head rfl (by decide) fun _ _ _ _ => rfl
  | true => exact .of_head rfl (by decide) fun _ _ _ _ => rfl

lemma Value.read_number {n : Numeral} (hn : n.Legal) : (Value.number n).Read := by
  obtain ⟨c, cs, hcs, hc⟩ := exists_char_or_minus hn
  have hopens : Opens c := by
    rcases hc with rfl | ⟨d, rfl⟩
    · decide
    · clear hcs
      decide +revert
  have hchars : (Value.number n).chars = c :: cs := by simp only [Value.chars, hcs]
  refine .of_head hchars hopens fun fuel rest _ hrest => ?_
  have hnumeral := numeral_chars hn hrest
  rw [hcs, List.cons_append] at hnumeral
  rw [value_numeral hc, hnumeral]
  rfl

lemma Value.read_string (s : Option String) : (Value.string s).Read := by
  obtain ⟨cs, hcs⟩ : ∃ cs, quote s = '"' :: cs := by
    cases s <;> exact ⟨_, rfl⟩
  have hchars : (Value.string s).chars = '"' :: cs := by simp only [Value.chars, hcs]
  refine .of_head hchars (by decide) fun fuel rest _ _ => ?_
  obtain ⟨inner, hinner, hquoted⟩ := quoted_quote s rest
  rw [hcs, List.cons_append] at hinner
  rw [hinner, value, skipBlanks_cons (by decide)]
  simp only [hquoted, Option.map_some]

lemma Value.read_array {vs : List Value} (h : ∀ v ∈ vs, v.Read) : (Value.array vs).Read := by
  cases vs with
  | nil => exact .of_head rfl (by decide) fun _ _ _ _ => rfl
  | cons v vs =>
    have hchars : (Value.array (v :: vs)).chars = '[' :: (v.chars ++ moreElements vs) := by
      simp only [Value.chars, List.cons_append]
    refine .of_head hchars (by decide) fun fuel rest hfuel _ => ?_
    have helements : elements fuel (v.chars ++ (moreElements vs ++ rest)) = some (v :: vs, rest) :=
      elements_chars h (by rwa [List.length_append] at hfuel)
    obtain ⟨c, cs, hcs, hblank, hclose⟩ := (h v List.mem_cons_self).opens
    rw [hcs, List.cons_append] at helements
    rw [List.append_assoc, hcs, List.cons_append, value, skipBlanks_cons (by decide)]
    simp only [skipBlanks_cons hblank]
    split
    next heq => exact absurd (List.cons.inj heq).1 hclose
    next => rw [helements]; rfl

lemma Value.read_object {ms : List (Option String × Value)} (h : ∀ m ∈ ms, m.2.Read) :
    (Value.object ms).Read := by
  cases ms with
  | nil => exact .of_head rfl (by decide) fun _ _ _ _ => rfl
  | cons m ms =>
    obtain ⟨k, v⟩ := m
    have hchars : (Value.object ((k, v) :: ms)).chars =
        '\x7b' :: (quote k ++ ':' :: (v.chars ++ moreMembers ms)) := by
      simp [Value.chars]
    refine .of_head hchars (by decide) fun fuel rest hfuel _ => ?_
    have hmembers : members fuel (quote k ++ ':' :: (v.chars ++ (moreMembers ms ++ rest))) =
        some ((k, v) :: ms, rest) := by
      have hv : v.Read := h (k, v) List.mem_cons_self
      refine members_chars hv (fun m hm => h m (List.mem_cons_of_mem _ hm)) ?_
      simp only [List.length_append, List.length_cons] at hfuel
      omega
    obtain ⟨cs, hcs, -⟩ := quoted_quote k (':' :: (v.chars ++ (moreMembers ms ++ rest)))
    rw [hcs] at hmembers
    simp only [List.append_assoc, List.cons_append]
    have hopen : skipBlanks ('\x7b' :: '"' :: cs) = '\x7b' :: '"' :: cs := rfl
    have hname : skipBlanks ('"' :: cs) = '"' :: cs := rfl
    simp [hcs, value, hopen, hname, hmembers]

mutual

lemma Value.read : ∀ v : Value, v.Legal → v.Read
  | .null, _ => Value.read_null
  | .bool b, _ => Value.read_bool b
  | .number _, hn => Value.read_number hn
  | .string s, _ => Value.read_string s
  | .array vs, h => Value.read_array (read_elements vs h)
  | .object ms, h => Value.read_object (read_members ms h)

lemma read_elements : ∀ vs : List Value, legalElements vs → ∀ v ∈ vs, v.Read
  | [], _ => List.forall_mem_nil _
  | v :: vs, h => List.forall_mem_cons.mpr ⟨Value.read v h.1, read_elements vs h.2⟩

lemma read_members : ∀ ms : List (Option String × Value), legalMembers ms → ∀ m ∈ ms, m.2.Read
  | [], _ => List.forall_mem_nil _
  | (_, v) :: ms, h => List.forall_mem_cons.mpr ⟨Value.read v h.1, read_members ms h.2⟩

end

lemma parse_render {v : Value} (h : v.Legal) : parse v.render = some v := by
  have hread := (Value.read v h).value_chars (2 * v.chars.length + 2) [] (by omega)
    fun c hc => nomatch hc
  rw [List.append_nil] at hread
  rw [parse, Value.render, String.toList_ofList]
  simp only [hread]
  rfl

end Telemetry.Json
