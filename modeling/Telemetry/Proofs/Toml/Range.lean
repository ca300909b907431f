import Mathlib.Data.Nat.Notation
import Mathlib.Tactic.Lemma
import Telemetry.Toml.Parser

namespace Telemetry.Toml

inductive Value.Bounded : Value → Prop
  | string {s : String} : Bounded (.string s)
  | integer {i : Int} : inRange i = true → Bounded (.integer i)
  | float : Bounded .float
  | boolean {b : Bool} : Bounded (.boolean b)
  | datetime : Bounded .datetime
  | array {vs : List Value} : (∀ v ∈ vs, Bounded v) → Bounded (.array vs)
  | table {form : Form} {ms : Members} : (∀ m ∈ ms, Bounded m.2) → Bounded (.table form ms)
  | tables {mss : List Members} : (∀ ms ∈ mss, ∀ m ∈ ms, Bounded m.2) → Bounded (.tables mss)

def Bounded (ms : Members) : Prop :=
  ∀ m ∈ ms, m.2.Bounded

lemma bounded_nil : Bounded [] :=
  List.forall_mem_nil _

lemma bounded_of_find? {ms : Members} (h : Bounded ms) {key : String} {v : Value}
    (hv : find? key ms = some v) : v.Bounded := by
  obtain ⟨m, hm, rfl⟩ := Option.map_eq_some_iff.mp hv
  exact h m (List.mem_of_find?_eq_some hm)

lemma Value.Bounded.members {form : Form} {ms : Members} (h : (Value.table form ms).Bounded) :
    ∀ m ∈ ms, m.2.Bounded := by
  cases h with
  | table hms => exact hms

lemma Value.Bounded.elements {mss : List Members} (h : (Value.tables mss).Bounded) :
    ∀ ms ∈ mss, ∀ m ∈ ms, m.2.Bounded := by
  cases h with
  | tables hmss => exact hmss

section Change

def Keeps (f : Members → Option Members) : Prop :=
  ∀ ms ms', f ms = some ms' → Bounded ms → Bounded ms'

def KeepsValue (f : Option Value → Option Value) : Prop :=
  ∀ old v, f old = some v → (∀ w ∈ old, w.Bounded) → v.Bounded

lemma keeps_alter {f : Option Value → Option Value} (hf : KeepsValue f) (key : String) :
    Keeps (alter key f) := by
  intro ms ms' h hms
  induction ms generalizing ms' with
  | nil =>
    obtain ⟨v, hv, rfl⟩ := Option.map_eq_some_iff.mp h
    exact List.forall_mem_singleton.mpr (hf none v hv fun w hw => nomatch hw)
  | cons m ms ih =>
    obtain ⟨k, old⟩ := m
    obtain ⟨hold, hrest⟩ := List.forall_mem_cons.mp hms
    rw [alter] at h
    split at h
    · obtain ⟨v, hv, rfl⟩ := Option.map_eq_some_iff.mp h
      refine List.forall_mem_cons.mpr ⟨hf (some old) v hv fun w hw => ?_, hrest⟩
      exact Option.some.inj hw ▸ hold
    · obtain ⟨rest, hr, rfl⟩ := Option.map_eq_some_iff.mp h
      exact List.forall_mem_cons.mpr ⟨hold, ih rest hr hrest⟩

lemma bounded_of_alterLast {f : Members → Option Members} (hf : Keeps f) {mss mss' : List Members}
    (h : alterLast f mss = some mss') (hmss : ∀ ms ∈ mss, Bounded ms) :
    ∀ ms ∈ mss', Bounded ms := by
  fun_induction alterLast f mss generalizing mss' with
  | case1 => cases h
  | case2 m =>
    obtain ⟨m', hm', rfl⟩ := Option.map_eq_some_iff.mp h
    exact List.forall_mem_singleton.mpr (hf m m' hm' (hmss m List.mem_cons_self))
  | case3 m ms _ ih =>
    obtain ⟨hm, hms⟩ := List.forall_mem_cons.mp hmss
    obtain ⟨rest, hr, rfl⟩ := Option.map_eq_some_iff.mp h
    exact List.forall_mem_cons.mpr ⟨hm, ih hr hms⟩

lemma keepsValue_new {v : Value} (hv : v.Bounded) :
    KeepsValue fun | none => some v | some _ => none := by
  intro old w h _
  cases old with
  | none => exact Option.some.inj h ▸ hv
  | some old => cases h

lemma bounded_of_map_table {form : Form} {f : Members → Option Members} (hf : Keeps f)
    {ms : Members} (hms : Bounded ms) {v : Value} (h : (f ms).map (.table form) = some v) :
    v.Bounded := by
  obtain ⟨ms', hms', rfl⟩ := Option.map_eq_some_iff.mp h
  exact .table (hf ms ms' hms' hms)

lemma bounded_of_map_tables {f : Members → Option Members} (hf : Keeps f) {mss : List Members}
    (hmss : ∀ ms ∈ mss, Bounded ms) {v : Value} (h : (alterLast f mss).map .tables = some v) :
    v.Bounded := by
  obtain ⟨mss', hmss', rfl⟩ := Option.map_eq_some_iff.mp h
  exact .tables (bounded_of_alterLast hf hmss' hmss)

lemma keeps_insertDotted {v : Value} (hv : v.Bounded) (key : String) (path : List String) :
    Keeps (insertDotted key v path) := by
  induction path with
  | nil => exact keeps_alter (keepsValue_new hv) key
  | cons name rest ih =>
    apply keeps_alter
    intro old w h hold
    dsimp only at h
    split at h
    next => exact bounded_of_map_table ih bounded_nil h
    next => exact bounded_of_map_table ih (hold _ rfl).members h
    next =>
      split at h
      next => cases h
      next => exact bounded_of_map_table ih (hold _ rfl).members h
    next =>
      split at h
      next => cases h
      next => exact bounded_of_map_tables ih (hold _ rfl).elements h
    next => cases h

lemma keeps_insertInline {v : Value} (hv : v.Bounded) (key : String) (path : List String) :
    Keeps (insertInline key v path) := by
  induction path with
  | nil => exact keeps_alter (keepsValue_new hv) key
  | cons name rest ih =>
    apply keeps_alter
    intro old w h hold
    dsimp only at h
    split at h
    next => exact bounded_of_map_table ih bounded_nil h
    next => exact bounded_of_map_table ih (hold _ rfl).members h
    next => cases h

lemma keeps_alterAt {f : Members → Option Members} (hf : Keeps f) (path : List String) :
    Keeps (alterAt f path) := by
  induction path with
  | nil => exact hf
  | cons name rest ih =>
    apply keeps_alter
    intro old w h hold
    dsimp only at h
    split at h
    next => exact bounded_of_map_table ih bounded_nil h
    next => cases h
    next => exact bounded_of_map_table ih (hold _ rfl).members h
    next => exact bounded_of_map_tables ih (hold _ rfl).elements h
    next => cases h

lemma keeps_openTable (name : String) : Keeps (openTable name) := by
  apply keeps_alter
  intro old w h hold
  dsimp only at h
  split at h
  next => exact Option.some.inj h ▸ .table bounded_nil
  next => exact Option.some.inj h ▸ .table (hold _ rfl).members
  next => cases h

lemma keeps_openElement (name : String) : Keeps (openElement name) := by
  apply keeps_alter
  intro old w h hold
  dsimp only at h
  split at h
  next => exact Option.some.inj h ▸ .tables (List.forall_mem_singleton.mpr bounded_nil)
  next =>
    have hnew : ∀ ms ∈ [([] : Members)], Bounded ms := List.forall_mem_singleton.mpr bounded_nil
    exact Option.some.inj h ▸ .tables (List.forall_mem_append.mpr ⟨(hold _ rfl).elements, hnew⟩)
  next => cases h

namespace Document

variable {d d' : Document} {path : List String} {key : String} {v : Value}

lemma bounded_addKey (h : d.addKey path key v = some d') (hv : v.Bounded)
    (hd : Bounded d.root) : Bounded d'.root := by
  obtain ⟨root, hroot, rfl⟩ := Option.map_eq_some_iff.mp h
  exact keeps_alterAt (keeps_insertDotted hv key path) d.current d.root root hroot hd

lemma bounded_addHeader (h : d.addHeader path key = some d') (hd : Bounded d.root) :
    Bounded d'.root := by
  obtain ⟨root, hroot, rfl⟩ := Option.map_eq_some_iff.mp h
  exact keeps_alterAt (keeps_openTable key) path d.root root hroot hd

lemma bounded_addElement (h : d.addElement path key = some d') (hd : Bounded d.root) :
    Bounded d'.root := by
  obtain ⟨root, hroot, rfl⟩ := Option.map_eq_some_iff.mp h
  exact keeps_alterAt (keeps_openElement key) path d.root root hroot hd

end Document

end Change

section Reading

def Reads (r : Option (Value × List Char)) : Prop :=
  ∀ v rest, r = some (v, rest) → v.Bounded

lemma reads_none : Reads none :=
  fun _ _ h => nomatch h

lemma reads_some {v : Value} (hv : v.Bounded) (rest : List Char) : Reads (some (v, rest)) := by
  intro w rest' h
  obtain ⟨rfl, -⟩ := Prod.mk.inj (Option.some.inj h)
  exact hv

lemma reads_bind {α : Type} {o : Option α} {f : α → Option (Value × List Char)}
    (hf : ∀ a, o = some a → Reads (f a)) : Reads (o.bind f) := by
  intro v rest h
  obtain ⟨a, ha, h⟩ := Option.bind_eq_some_iff.mp h
  exact hf a ha v rest h

lemma reads_map {α : Type} {o : Option α} {f : α → Value × List Char}
    (hf : ∀ a, o = some a → (f a).1.Bounded) : Reads (o.map f) := by
  intro v rest h
  obtain ⟨a, ha, h⟩ := Option.map_eq_some_iff.mp h
  have hv := hf a ha
  rwa [h] at hv

lemma reads_orElse {r s : Option (Value × List Char)} (hr : Reads r) (hs : Reads s) :
    Reads (r <|> s) := by
  cases r with
  | none => exact hs
  | some => exact hr

lemma reads_checked (i : Int) (rest : List Char) :
    Reads (if inRange i then some (Value.integer i, rest) else none) := by
  split
  next hi => exact reads_some (.integer hi) rest
  next => exact reads_none

lemma reads_radix (base : ℕ) (ok : Char → Bool) (cs : List Char) : Reads (radix base ok cs) :=
  reads_bind fun (_, rest) _ => reads_checked _ rest

lemma reads_integer (cs : List Char) : Reads (integer cs) := by
  rw [integer.eq_def]
  split
  next => exact reads_radix _ _ _
  next => exact reads_radix _ _ _
  next => exact reads_radix _ _ _
  next => exact reads_bind fun (_, rest) _ => reads_checked _ rest

lemma reads_float (cs : List Char) : Reads (float cs) := by
  rw [float]
  dsimp only
  split
  next rest _ => exact reads_some .float rest
  next =>
    refine reads_bind fun (whole, cs) _ => ?_
    dsimp only
    split
    all_goals
      refine reads_bind fun (fraction, cs) _ => ?_
      dsimp only
      split
      all_goals
        refine reads_bind fun (exponent, cs) _ => ?_
        dsimp only
        split
        · exact reads_none
        · exact reads_some .float cs

lemma reads_datetime (cs : List Char) : Reads (datetime cs) := by
  rw [datetime]
  split
  next => exact reads_some .datetime _
  next => exact reads_map fun _ _ => .datetime

structure AllRead (fuel : ℕ) : Prop where
  value : ∀ depth cs, Reads (value fuel depth cs)
  elements : ∀ depth cs vs rest, elements fuel depth cs = some (vs, rest) → ∀ v ∈ vs, v.Bounded
  pairs : ∀ depth seen cs ms rest, pairs fuel depth seen cs = some (ms, rest) → Bounded seen →
    Bounded ms

lemma reads_value {fuel : ℕ} (ih : AllRead fuel) (depth : ℕ) (cs : List Char) :
    Reads (value (fuel + 1) depth cs) := by
  rw [value.eq_def]
  dsimp only
  split
  next => exact reads_map fun _ _ => .string
  next => exact reads_map fun _ _ => .string
  next => exact reads_map fun _ _ => .string
  next => exact reads_map fun _ _ => .string
  next cs =>
    split
    · exact reads_map fun (vs, rest) h => .array (ih.elements _ cs vs rest h)
    · exact reads_none
  next cs =>
    split
    · split
      next cs _ => exact reads_some (.table bounded_nil) cs
      next => exact reads_map fun (ms, rest) h => .table (ih.pairs _ _ _ ms rest h bounded_nil)
    · exact reads_none
  next => exact reads_map fun _ _ => .boolean
  next => exact reads_map fun _ _ => .boolean
  next => exact reads_orElse (reads_datetime _) (reads_orElse (reads_float _) (reads_integer _))

lemma bounded_of_elements {fuel : ℕ} (ih : AllRead fuel) {depth : ℕ} {cs rest : List Char}
    {vs : List Value} (h : elements (fuel + 1) depth cs = some (vs, rest)) :
    ∀ v ∈ vs, v.Bounded := by
  rw [elements] at h
  split at h
  next =>
    obtain ⟨rfl, -⟩ := Prod.mk.inj (Option.some.inj h)
    exact List.forall_mem_nil _
  next =>
    split at h
    next => cases h
    next v cs hv =>
      have hbounded := ih.value _ _ v cs hv
      split at h
      next =>
        obtain ⟨⟨ws, cs'⟩, hws, heq⟩ := Option.map_eq_some_iff.mp h
        obtain ⟨rfl, -⟩ := Prod.mk.inj heq
        exact List.forall_mem_cons.mpr ⟨hbounded, ih.elements _ _ ws cs' hws⟩
      next =>
        obtain ⟨rfl, -⟩ := Prod.mk.inj (Option.some.inj h)
        exact List.forall_mem_singleton.mpr hbounded
      next => cases h

lemma bounded_of_pairs {fuel : ℕ} (ih : AllRead fuel) {depth : ℕ} {seen ms : Members}
    {cs rest : List Char} (h : pairs (fuel + 1) depth seen cs = some (ms, rest))
    (hseen : Bounded seen) : Bounded ms := by
  rw [pairs] at h
  split at h
  next path last cs _ =>
    split at h
    next => cases h
    next v cs hv =>
      split at h
      next => cases h
      next members hmembers =>
        have hbounded := ih.value _ _ v cs hv
        have hinserted := keeps_insertInline hbounded last path seen members hmembers hseen
        split at h
        next => exact ih.pairs _ _ _ ms rest h hinserted
        next =>
          obtain ⟨rfl, -⟩ := Prod.mk.inj (Option.some.inj h)
          exact hinserted
        next => cases h
  next => cases h

lemma allRead (fuel : ℕ) : AllRead fuel := by
  induction fuel with
  | zero =>
    exact ⟨fun _ _ => reads_none, fun _ _ _ _ h => (nomatch h), fun _ _ _ _ _ h => (nomatch h)⟩
  | succ fuel ih =>
    exact ⟨reads_value ih, fun _ _ _ _ h => bounded_of_elements ih h,
      fun _ _ _ _ _ h hseen => bounded_of_pairs ih h hseen⟩

end Reading

section Statements

variable {fuel count : ℕ} {d d' : Document} {cs rest : List Char}

lemma bounded_of_statement (h : statement fuel d cs = some (d', rest)) (hd : Bounded d.root) :
    Bounded d'.root := by
  rw [statement.eq_def] at h
  split at h
  next =>
    obtain ⟨⟨⟨path, name⟩, cs'⟩, -, h⟩ := Option.bind_eq_some_iff.mp h
    obtain ⟨_, -, h⟩ := Option.bind_eq_some_iff.mp h
    obtain ⟨d'', hadd, h⟩ := Option.bind_eq_some_iff.mp h
    obtain ⟨rfl, -⟩ := Prod.mk.inj (Option.some.inj h)
    exact Document.bounded_addElement hadd hd
  next =>
    obtain ⟨⟨⟨path, name⟩, cs'⟩, -, h⟩ := Option.bind_eq_some_iff.mp h
    obtain ⟨_, -, h⟩ := Option.bind_eq_some_iff.mp h
    obtain ⟨d'', hadd, h⟩ := Option.bind_eq_some_iff.mp h
    obtain ⟨rfl, -⟩ := Prod.mk.inj (Option.some.inj h)
    exact Document.bounded_addHeader hadd hd
  next =>
    obtain ⟨⟨⟨path, name⟩, cs'⟩, -, h⟩ := Option.bind_eq_some_iff.mp h
    obtain ⟨_, -, h⟩ := Option.bind_eq_some_iff.mp h
    obtain ⟨⟨v, cs''⟩, hv, h⟩ := Option.bind_eq_some_iff.mp h
    obtain ⟨d'', hadd, h⟩ := Option.bind_eq_some_iff.mp h
    obtain ⟨_, -, h⟩ := Option.bind_eq_some_iff.mp h
    obtain ⟨rfl, -⟩ := Prod.mk.inj (Option.some.inj h)
    exact Document.bounded_addKey hadd ((allRead fuel).value _ _ v cs'' hv) hd

lemma bounded_of_statements (h : statements fuel count d cs = some d') (hd : Bounded d.root) :
    Bounded d'.root := by
  induction count generalizing d cs with
  | zero => cases h
  | succ count ih =>
    rw [statements] at h
    split at h
    next => exact Option.some.inj h ▸ hd
    next =>
      split at h
      next d'' rest hstatement => exact ih h (bounded_of_statement hstatement hd)
      next => cases h

theorem bounded_of_parse {text : String} {ms : Members} (h : parse text = some ms) :
    Bounded ms := by
  obtain ⟨d, hd, rfl⟩ := Option.map_eq_some_iff.mp h
  exact bounded_of_statements hd bounded_nil

end Statements

end Telemetry.Toml
