import Telemetry.Proofs.Cache.Validity

/-! How long an entry of a cache is served, when the store is asked, and which entries an operation
can touch. -/

namespace Telemetry

namespace Time.Instant

lemma nanos_add (t : Instant) (s : Span) : (t.add s).nanos = min (t.nanos + s.nanos) latest := by
  have hlast := t.le_latest
  unfold add
  split
  next h =>
    -- Within a second: the last moment of all is the end of one.
    have hsecond := h.2
    simp only [latest, nanosPerSecond] at hlast hsecond ⊢
    omega
  next =>
    split
    next hle => exact (Int.min_eq_left hle).symm
    next hlt => exact (Int.min_eq_right (Int.le_of_lt (Int.not_le.mp hlt))).symm

lemma leap_add_iff (t : Instant) (s : Span) : (t.add s).leap = true ↔
    t.leap = true ∧ t.nanos % nanosPerSecond + s.nanos < nanosPerSecond := by
  unfold add
  split
  next h => simp [h]
  next h => split <;> simpa [last] using h

lemma leap_add {t : Instant} (h : t.leap = false) (s : Span) : (t.add s).leap = false := by
  rw [← Bool.not_eq_true, leap_add_iff, h]
  exact fun hleap => Bool.false_ne_true hleap.1

lemma before_iff {t u : Instant} (ht : t.leap = false) (hu : u.leap = false) :
    t.before u = true ↔ t.nanos < u.nanos := by
  simp only [before, rank, ht, hu, nanosPerSecond, Bool.false_eq_true, if_false,
    decide_eq_true_eq]
  omega

lemma add_of_longestStep_lt (t : Instant) {s : Span} (h : Span.longestStep.nanos < s.nanos) :
    t.add s = last := by
  have hfirst := t.earliest_le
  simp only [Span.longestStep, earliest, nanosPerSecond] at h hfirst
  rw [add, dif_neg, dif_neg]
  · simp only [latest, nanosPerSecond]
    omega
  · simp only [nanosPerSecond]
    omega

end Time.Instant

namespace Cache

open Schema Time

variable {c : Cache} {i : Identity} {schema : Schema} {due : Instant} {s : Step}

def Step.key? : Step → Option Identity
  | .get i | .invalidate i => some i
  | .save schema => some schema.identity
  | _ => none

lemma held_of_key?_ne (hkey : s.key? ≠ some i) (hall : s ≠ .invalidateAll) :
    (c.step s).2.held.get? i = c.held.get? i := by
  cases s with
  | get j =>
    have hne : j ≠ i := fun he => hkey (congrArg some he)
    rcases hg : c.get j with ⟨r, c'⟩
    simp only [step, hg]
    cases got_of_get hg with
    | hit | offline => rfl
    | missing => exact (Table.get?_erase _ _ _).trans (if_neg hne)
    | loaded => exact (Table.get?_insert _ _ _ _).trans (if_neg hne)
  | save schema =>
    have hne : schema.identity ≠ i := fun he => hkey (congrArg some he)
    rcases hs : c.save schema with ⟨r, c'⟩
    simp only [step, hs]
    cases saved_of_save hs with
    | offline | invalid => rfl
    | stored => exact (Table.get?_insert _ _ _ _).trans (if_neg hne)
  | saveBehind schema => simp only [step, saveBehind]; split <;> rfl
  | invalidate j =>
    have hne : j ≠ i := fun he => hkey (congrArg some he)
    exact (Table.get?_erase _ _ _).trans (if_neg hne)
  | invalidateAll => exact absurd rfl hall
  | advance span => simp only [step, advance]; split <;> rfl
  | setClock | setOffline => rfl

section Answer

lemma fresh?_of_held (hh : c.held.get? i = some ⟨schema, due⟩)
    (hbefore : c.clock.before due = true) : c.fresh? i = some schema :=
  (fresh?_eq_some_iff c i schema).mpr ⟨_, hh, hbefore, rfl⟩

lemma fresh?_eq_none_iff : c.fresh? i = none ↔
    ∀ h, c.held.get? i = some h → c.clock.before h.expires = false := by
  simp [fresh?, Option.bind_eq_none_iff]

lemma get_of_fresh? (h : c.fresh? i = some schema) : c.get i = (.ok (some schema), c) := by
  rw [get, h]

lemma get_of_fresh?_eq_none (h : c.fresh? i = none) :
    (c.get i).1 = (c.source.read i).1 ∧ (c.get i).2.source = c.source.asked := by
  rcases hg : c.get i with ⟨r, c'⟩
  cases got_of_get hg with
  | hit hh hbefore => exact absurd (fresh?_eq_none_iff.mp h _ hh) (hbefore ▸ Bool.noConfusion)
  | offline _ ho => simp [Source.read, ho]
  | missing _ ho hs => simp [Source.read, ho, hs]
  | loaded _ ho hs => simp [Source.read, ho, hs]

lemma held_get_of_error {e : SchemaError} (he : (c.get i).1 = .error e) :
    (c.get i).2.held = c.held := by
  rcases hg : c.get i with ⟨r, c'⟩
  obtain rfl : r = .error e := by simpa [hg] using he
  cases got_of_get hg with
  | offline => rfl

lemma held_get_of_none (hr : (c.get i).1 = .ok none) (j : Identity) :
    (c.get i).2.held.get? j = if i = j then none else c.held.get? j := by
  rcases hg : c.get i with ⟨r, c'⟩
  obtain rfl : r = .ok none := by simpa [hg] using hr
  cases got_of_get hg with
  | missing => exact Table.get?_erase _ _ _

end Answer

section Run

inductive Takes (c : Cache) (i : Identity) (schema : Schema) : Step → Prop
  | saved : schema.identity = i → (c.save schema).1 = .ok () → Takes c i schema (.save schema)
  | loaded : (c.get i).1 = .ok (some schema) → (c.get i).2.source.reads = c.source.reads + 1 →
      Takes c i schema (.get i)

inductive Ends (c : Cache) (i : Identity) (due : Instant) : Step → Prop
  | saved {schema : Schema} : schema.identity = i → (c.save schema).1 = .ok () →
      Ends c i due (.save schema)
  | refreshed : c.clock.before due = false → c.source.offline = false → Ends c i due (.get i)
  | invalidated : Ends c i due (.invalidate i)
  | cleared : Ends c i due .invalidateAll

def Lasting (i : Identity) (due : Instant) : Cache → List Step → Prop
  | _, [] => True
  | c, s :: steps => ¬ c.Ends i due s ∧ Lasting i due (c.step s).2 steps

lemma Takes.held (h : c.Takes i schema s) : (c.step s).2.held.get? i = some ⟨schema, c.expiry⟩ := by
  cases h with
  | saved hidentity hr =>
    rcases hs : c.save schema with ⟨r, c'⟩
    obtain rfl : r = .ok () := by simpa [hs] using hr
    simp only [step, hs]
    cases saved_of_save hs with
    | stored => exact (Table.get?_insert _ _ _ _).trans (if_pos hidentity)
  | loaded hr hreads =>
    rcases hg : c.get i with ⟨r, c'⟩
    rw [hg] at hr hreads
    simp only [step, hg]
    cases got_of_get hg with
    | hit => exact absurd hreads (Nat.succ_ne_self _).symm
    | missing => cases hr
    | offline => cases hr
    | loaded =>
      obtain rfl := Option.some.inj (Except.ok.inj hr)
      exact (Table.get?_insert _ _ _ _).trans (if_pos rfl)

lemma held_of_not_ends (hh : c.held.get? i = some ⟨schema, due⟩) (hs : ¬ c.Ends i due s) :
    (c.step s).2.held.get? i = some ⟨schema, due⟩ := by
  by_cases hall : s = .invalidateAll
  · exact absurd (hall ▸ .cleared) hs
  by_cases hkey : s.key? ≠ some i
  · exact (held_of_key?_ne hkey hall).trans hh
  -- Left are the operations on this entry.
  rw [not_not] at hkey
  cases s with
  | get j =>
    obtain rfl := Option.some.inj hkey
    rcases hg : c.get j with ⟨r, c'⟩
    simp only [step, hg]
    have hlive : c.source.offline = false → c.fresh? j ≠ none := fun ho hf =>
      hs (.refreshed (fresh?_eq_none_iff.mp hf _ hh) ho)
    cases got_of_get hg with
    | hit | offline => exact hh
    | missing hf ho | loaded hf ho => exact absurd hf (hlive ho)
  | save schema' =>
    obtain rfl := Option.some.inj hkey
    rcases hr : (c.save schema').1 with e | _
    · rwa [step, save_of_error hr]
    · exact absurd (.saved rfl hr) hs
  | invalidate j =>
    obtain rfl := Option.some.inj hkey
    exact absurd .invalidated hs
  | invalidateAll => exact absurd rfl hall
  | saveBehind | advance | setClock | setOffline => cases hkey

lemma held_of_lasting {steps : List Step} (hh : c.held.get? i = some ⟨schema, due⟩)
    (hsteps : Lasting i due c steps) : (c.run steps).held.get? i = some ⟨schema, due⟩ := by
  induction steps generalizing c with
  | nil => exact hh
  | cons s steps ih => exact ih (held_of_not_ends hh hsteps.1) hsteps.2

end Run

/-- A cache that began empty, after any run. A look-up asks the store once if no entry is due later
than the clock, and else not at all. What was taken up is served until the time to live is over or
the last moment has come, whatever happens to the store in the meantime, and from then on never. A
look-up or a save that fails touches no entry, a look-up that finds nothing drops the one it is
about, and no operation but the clearing of the cache touches an entry that it is not about. -/
theorem served_until_due (source : Source) (clock : Instant) (ttl : Span) (past : List Step)
    (i : Identity) :
    let c := (new source clock ttl).run past
    let due := c.clock.add ttl
    ((∃ h, c.held.get? i = some h ∧ c.clock.before h.expires = true) →
      (c.get i).2.source.reads = c.source.reads) ∧
    ((∀ h, c.held.get? i = some h → c.clock.before h.expires = false) →
      (c.get i).2.source.reads = c.source.reads + 1) ∧
    due.nanos = min (c.clock.nanos + ttl.nanos) latest ∧
    (Span.longestStep.nanos < ttl.nanos → due = .last) ∧
    (∀ t : Instant, t.leap = false → c.clock.leap = false →
      (t.before due = true ↔ t.nanos < min (c.clock.nanos + ttl.nanos) latest)) ∧
    (∀ s schema, c.Takes i schema s → ∀ since, Lasting i due (c.step s).2 since →
      let d := (c.step s).2.run since
      (d.clock.before due = true → d.get i = (.ok (some schema), d)) ∧
      (d.clock.before due = false →
        (d.get i).1 = (d.source.read i).1 ∧ (d.get i).2.source.reads = d.source.reads + 1)) ∧
    (∀ e, (c.get i).1 = .error e → (c.get i).2.held = c.held) ∧
    (∀ schema e, (c.save schema).1 = .error e → (c.save schema).2.held = c.held) ∧
    ((c.get i).1 = .ok none →
      ∀ j, (c.get i).2.held.get? j = if i = j then none else c.held.get? j) ∧
    ∀ s : Step, s.key? ≠ some i → s ≠ .invalidateAll →
      (c.step s).2.held.get? i = c.held.get? i := by
  intro c due
  refine ⟨?_, ?_, Instant.nanos_add _ _, Instant.add_of_longestStep_lt _, ?_, ?_,
    fun e => held_get_of_error, fun schema e he => congrArg held (save_of_error he),
    held_get_of_none, fun s => held_of_key?_ne⟩
  · rintro ⟨h, hh, hbefore⟩
    rw [get_of_fresh? (fresh?_of_held hh hbefore)]
  · intro hstale
    rw [(get_of_fresh?_eq_none (fresh?_eq_none_iff.mpr hstale)).2]
    rfl
  · intro t ht hc
    rw [Instant.before_iff ht (Instant.leap_add hc ttl), Instant.nanos_add]
  · intro s schema htakes since hsince d
    have hdue : c.expiry = due := congrArg c.clock.add (run_ttl _ past)
    have hheld : d.held.get? i = some ⟨schema, due⟩ :=
      held_of_lasting (hdue ▸ htakes.held) hsince
    constructor
    · exact fun hbefore => get_of_fresh? (fresh?_of_held hheld hbefore)
    · intro hlate
      have hstale : d.fresh? i = none := fresh?_eq_none_iff.mpr fun h hh => by
        obtain rfl := Option.some.inj (hheld.symm.trans hh)
        exact hlate
      obtain ⟨hr, hsource⟩ := get_of_fresh?_eq_none hstale
      exact ⟨hr, congrArg Source.reads hsource⟩

def pumpOutage (seconds : Nat) : List Step :=
  [.saveBehind ((Schema.new ⟨"pump", "1"⟩).withEntry ⟨2, "flow", "float32", "m3/h"⟩),
    .setOffline true, .advance (.ofSeconds seconds)]

lemma lasting_pumpOutage (c : Cache) (i : Identity) (due : Instant) (seconds : Nat) :
    Lasting i due c (pumpOutage seconds) :=
  ⟨nofun, nofun, nofun, trivial⟩

theorem served_until_due_pump :
    let c := new (.new .empty) .epoch (.ofSeconds 60)
    let later seconds := (c.step (.save pumpSchema)).2.run (pumpOutage seconds)
    c.Takes ⟨"pump", "1"⟩ pumpSchema (.save pumpSchema) ∧
    ((later 59).get ⟨"pump", "1"⟩).1 = .ok (some pumpSchema) ∧
    ((later 60).get ⟨"pump", "1"⟩).1 = .error Source.offlineError := by
  intro c later
  have htakes : c.Takes ⟨"pump", "1"⟩ pumpSchema (.save pumpSchema) := .saved rfl rfl
  obtain ⟨-, -, -, -, -, hserved, -⟩ :=
    served_until_due (.new .empty) .epoch (.ofSeconds 60) [] ⟨"pump", "1"⟩
  have hearly := (hserved _ _ htakes _ (lasting_pumpOutage _ _ _ 59)).1 rfl
  have hlate := (hserved _ _ htakes _ (lasting_pumpOutage _ _ _ 60)).2 rfl
  exact ⟨htakes, congrArg Prod.fst hearly, hlate.1⟩

end Cache

end Telemetry
