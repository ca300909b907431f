import Telemetry.Proofs.Json.RoundTrip

namespace Telemetry.Json

open Number

section Blanks

variable {bs : List Char} (hbs : ∀ c ∈ bs, isBlank c) (cs : List Char)

include hbs

lemma skipBlanks_append : skipBlanks (bs ++ cs) = skipBlanks cs :=
  List.dropWhile_append_of_pos hbs

lemma value_blanks (fuel : ℕ) : value fuel (bs ++ cs) = value fuel cs := by
  cases fuel with
  | zero => rfl
  | succ fuel => rw [value, value, skipBlanks_append hbs]

lemma elements_blanks (fuel : ℕ) : elements fuel (bs ++ cs) = elements fuel cs := by
  cases fuel with
  | zero => rfl
  | succ fuel => rw [elements, elements, value_blanks hbs]

lemma members_blanks (fuel : ℕ) : members fuel (bs ++ cs) = members fuel cs := by
  cases fuel with
  | zero => rfl
  | succ fuel => rw [members, members, skipBlanks_append hbs]

end Blanks

lemma isBlank_newline (depth : ℕ) : ∀ c ∈ newline depth, isBlank c := by
  intro c hc
  rcases List.mem_cons.mp hc with rfl | hc
  · rfl
  · rw [List.eq_of_mem_replicate hc]
    rfl

lemma closes_newline (depth : ℕ) (cs : List Char) : Closes (newline depth ++ cs) := by
  intro c hc
  obtain rfl : '\n' = c := Option.some.inj hc
  simp

lemma value_blank (fuel : ℕ) (cs : List Char) : value fuel (' ' :: cs) = value fuel cs := by
  have hblank : ∀ c ∈ [' '], isBlank c := by simp [isBlank]
  exact value_blanks hblank cs fuel

structure Value.PrettyRead (v : Value) : Prop where
  opens : ∀ depth, ∃ c cs, v.prettyChars depth = c :: cs ∧ Opens c
  value_prettyChars : ∀ depth fuel rest, (v.prettyChars depth).length ≤ fuel → Closes rest →
    value fuel (v.prettyChars depth ++ rest) = some (v, rest)

lemma Value.Read.prettyRead {v : Value} (h : v.Read)
    (hchars : ∀ depth, v.prettyChars depth = v.chars) : v.PrettyRead where
  opens depth := hchars depth ▸ h.opens
  value_prettyChars depth := hchars depth ▸ h.value_chars

lemma Value.PrettyRead.of_head {v : Value} {c : Char} {cs : ℕ → List Char}
    (hcs : ∀ depth, v.prettyChars depth = c :: cs depth) (hc : Opens c)
    (h : ∀ depth fuel rest, (cs depth).length ≤ fuel → Closes rest →
      value (fuel + 1) (c :: (cs depth ++ rest)) = some (v, rest)) : v.PrettyRead := by
  refine ⟨fun depth => ⟨c, cs depth, hcs depth, hc⟩, fun depth fuel rest hfuel hrest => ?_⟩
  rw [hcs] at hfuel ⊢
  cases fuel with
  | zero => exact absurd hfuel (by simp)
  | succ fuel => exact h depth fuel rest (Nat.le_of_succ_le_succ hfuel) hrest

lemma closes_prettyElements (depth : ℕ) (vs : List Value) (rest : List Char) :
    Closes (prettyElements depth vs ++ rest) := by
  cases vs with
  | nil =>
    rw [prettyElements, List.append_assoc]
    exact closes_newline depth _
  | cons v vs => exact fun c hc => .inl (Option.some.inj hc).symm

lemma closes_prettyMembers (depth : ℕ) (ms : List (Option String × Value)) (rest : List Char) :
    Closes (prettyMembers depth ms ++ rest) := by
  cases ms with
  | nil =>
    rw [prettyMembers, List.append_assoc]
    exact closes_newline depth _
  | cons m ms => exact fun c hc => .inl (Option.some.inj hc).symm

lemma elements_prettyChars {depth : ℕ} {v : Value} {vs : List Value}
    (h : ∀ w ∈ v :: vs, w.PrettyRead) {fuel : ℕ} {rest : List Char}
    (hfuel : (v.prettyChars (depth + 1)).length + (prettyElements depth vs).length ≤ fuel) :
    elements fuel (v.prettyChars (depth + 1) ++ (prettyElements depth vs ++ rest)) =
      some (v :: vs, rest) := by
  have hv := (h v List.mem_cons_self).value_prettyChars (depth + 1)
  induction vs generalizing v fuel with
  | nil =>
    simp only [prettyElements, List.length_append, List.length_singleton] at hfuel
    cases fuel with
    | zero => omega
    | succ fuel =>
      have htail : skipBlanks (prettyElements depth [] ++ rest) = ']' :: rest := by
        rw [prettyElements, List.append_assoc, skipBlanks_append (isBlank_newline depth)]
        rfl
      exact elements_last (hv fuel _ (by omega) (closes_prettyElements depth [] rest)) htail
  | cons w ws ih =>
    simp only [prettyElements, List.cons_append, List.length_append, List.length_cons] at hfuel
    cases fuel with
    | zero => omega
    | succ fuel =>
      have hws : ∀ u ∈ w :: ws, u.PrettyRead := fun u hu => h u (List.mem_cons_of_mem v hu)
      have hmore : elements fuel (w.prettyChars (depth + 1) ++
          (prettyElements depth ws ++ rest)) = some (w :: ws, rest) :=
        ih hws (by omega) ((hws w List.mem_cons_self).value_prettyChars (depth + 1))
      have hlist : prettyElements depth (w :: ws) ++ rest = ',' :: (newline (depth + 1) ++
          (w.prettyChars (depth + 1) ++ (prettyElements depth ws ++ rest))) := by
        simp [prettyElements]
      have hvalue := hv fuel _ (by omega) (closes_prettyElements depth (w :: ws) rest)
      rw [hlist] at hvalue ⊢
      exact elements_more hvalue ((elements_blanks (isBlank_newline _) _ _).trans hmore)

lemma members_prettyChars {depth : ℕ} {k : Option String} {v : Value}
    {ms : List (Option String × Value)} (hv : v.PrettyRead) (h : ∀ m ∈ ms, m.2.PrettyRead)
    {fuel : ℕ} {rest : List Char}
    (hfuel : (v.prettyChars (depth + 1)).length + (prettyMembers depth ms).length ≤ fuel) :
    members fuel (quote k ++ ':' :: ' ' :: (v.prettyChars (depth + 1) ++
      (prettyMembers depth ms ++ rest))) = some ((k, v) :: ms, rest) := by
  induction ms generalizing k v fuel with
  | nil =>
    simp only [prettyMembers, List.length_append, List.length_singleton] at hfuel
    cases fuel with
    | zero => omega
    | succ fuel =>
      have htail : skipBlanks (prettyMembers depth [] ++ rest) = '\x7d' :: rest := by
        rw [prettyMembers, List.append_assoc, skipBlanks_append (isBlank_newline depth)]
        rfl
      have hvalue := hv.value_prettyChars (depth + 1) fuel _ (by omega)
        (closes_prettyMembers depth [] rest)
      exact members_last ((value_blank _ _).trans hvalue) htail k
  | cons m ms ih =>
    obtain ⟨l, w⟩ := m
    simp only [prettyMembers, List.cons_append, List.length_append, List.length_cons] at hfuel
    cases fuel with
    | zero => omega
    | succ fuel =>
      have hw : w.PrettyRead := h (l, w) List.mem_cons_self
      have hmore : members fuel (quote l ++ ':' :: ' ' :: (w.prettyChars (depth + 1) ++
          (prettyMembers depth ms ++ rest))) = some ((l, w) :: ms, rest) :=
        ih hw (fun n hn => h n (List.mem_cons_of_mem _ hn)) (by omega)
      have hlist : prettyMembers depth ((l, w) :: ms) ++ rest = ',' :: (newline (depth + 1) ++
          (quote l ++ ':' :: ' ' :: (w.prettyChars (depth + 1) ++
            (prettyMembers depth ms ++ rest)))) := by
        simp [prettyMembers]
      have hvalue := hv.value_prettyChars (depth + 1) fuel _ (by omega)
        (closes_prettyMembers depth ((l, w) :: ms) rest)
      rw [hlist] at hvalue ⊢
      exact members_more ((value_blank _ _).trans hvalue)
        ((members_blanks (isBlank_newline _) _ _).trans hmore) k

lemma Value.prettyRead_array {vs : List Value} (h : ∀ v ∈ vs, v.PrettyRead) :
    (Value.array vs).PrettyRead := by
  cases vs with
  | nil => exact (Value.read_array (List.forall_mem_nil _)).prettyRead fun _ => rfl
  | cons v vs =>
    have hchars (depth : ℕ) : (Value.array (v :: vs)).prettyChars depth =
        '[' :: (newline (depth + 1) ++ (v.prettyChars (depth + 1) ++ prettyElements depth vs)) := by
      simp [Value.prettyChars]
    refine .of_head hchars (by decide) fun depth fuel rest hfuel _ => ?_
    have helements : elements fuel (v.prettyChars (depth + 1) ++
        (prettyElements depth vs ++ rest)) = some (v :: vs, rest) := by
      refine elements_prettyChars h ?_
      simp only [List.length_append] at hfuel
      omega
    obtain ⟨c, cs, hcs, hblank, hclose⟩ := (h v List.mem_cons_self).opens (depth + 1)
    rw [hcs, List.cons_append] at helements
    rw [List.append_assoc, List.append_assoc, hcs, List.cons_append, value,
      skipBlanks_cons (by decide)]
    simp only [skipBlanks_append (isBlank_newline _), skipBlanks_cons hblank]
    split
    next heq => exact absurd (List.cons.inj heq).1 hclose
    next => rw [helements]; rfl

lemma Value.prettyRead_object {ms : List (Option String × Value)}
    (h : ∀ m ∈ ms, m.2.PrettyRead) : (Value.object ms).PrettyRead := by
  cases ms with
  | nil => exact (Value.read_object (List.forall_mem_nil _)).prettyRead fun _ => rfl
  | cons m ms =>
    obtain ⟨k, v⟩ := m
    have hchars (depth : ℕ) : (Value.object ((k, v) :: ms)).prettyChars depth =
        '\x7b' :: (newline (depth + 1) ++ (quote k ++ ':' :: ' ' ::
          (v.prettyChars (depth + 1) ++ prettyMembers depth ms))) := by
      simp [Value.prettyChars]
    refine .of_head hchars (by decide) fun depth fuel rest hfuel _ => ?_
    have hmembers : members fuel (quote k ++ ':' :: ' ' :: (v.prettyChars (depth + 1) ++
        (prettyMembers depth ms ++ rest))) = some ((k, v) :: ms, rest) := by
      have hv : v.PrettyRead := h (k, v) List.mem_cons_self
      refine members_prettyChars hv (fun m hm => h m (List.mem_cons_of_mem _ hm)) ?_
      simp only [List.length_append, List.length_cons] at hfuel
      omega
    obtain ⟨cs, hcs, -⟩ := quoted_quote k
      (':' :: ' ' :: (v.prettyChars (depth + 1) ++ (prettyMembers depth ms ++ rest)))
    rw [hcs] at hmembers
    simp only [List.append_assoc, List.cons_append]
    have hopen (cs : List Char) : skipBlanks ('\x7b' :: cs) = '\x7b' :: cs := rfl
    have hname : skipBlanks ('"' :: cs) = '"' :: cs := rfl
    simp [hcs, value, hopen, skipBlanks_append (isBlank_newline _), hname, hmembers]

mutual

lemma Value.prettyRead : ∀ v : Value, v.Legal → v.PrettyRead
  | .null, _ => Value.read_null.prettyRead fun _ => rfl
  | .bool b, _ => (Value.read_bool b).prettyRead fun _ => rfl
  | .number _, hn => (Value.read_number hn).prettyRead fun _ => rfl
  | .string s, _ => (Value.read_string s).prettyRead fun _ => rfl
  | .array vs, h => Value.prettyRead_array (prettyRead_elements vs h)
  | .object ms, h => Value.prettyRead_object (prettyRead_members ms h)

lemma prettyRead_elements : ∀ vs : List Value, legalElements vs → ∀ v ∈ vs, v.PrettyRead
  | [], _ => List.forall_mem_nil _
  | v :: vs, h => List.forall_mem_cons.mpr ⟨Value.prettyRead v h.1, prettyRead_elements vs h.2⟩

lemma prettyRead_members : ∀ ms : List (Option String × Value), legalMembers ms →
    ∀ m ∈ ms, m.2.PrettyRead
  | [], _ => List.forall_mem_nil _
  | (_, v) :: ms, h =>
    List.forall_mem_cons.mpr ⟨Value.prettyRead v h.1, prettyRead_members ms h.2⟩

end

lemma parse_pretty {v : Value} (h : v.Legal) : parse v.pretty = some v := by
  have hread := (Value.prettyRead v h).value_prettyChars 0 (2 * (v.prettyChars 0).length + 2) []
    (by omega) fun c hc => nomatch hc
  rw [List.append_nil] at hread
  rw [parse, Value.pretty, String.toList_ofList]
  simp only [hread]
  rfl

end Telemetry.Json
