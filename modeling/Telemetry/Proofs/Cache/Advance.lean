import Telemetry.Proofs.Cache.Expiry

/-! How far the clock of a cache moves, and that no entry outlasts its time to live. A span that is
too long for one step does not move the clock at all. -/

namespace Telemetry

namespace Time.Instant

lemma rank_of_leap {t : Instant} (h : t.leap = true) :
    t.rank = t.nanos + t.nanos / nanosPerSecond * nanosPerSecond + nanosPerSecond := by
  simp [rank, h]

lemma rank_of_not_leap {t : Instant} (h : ¬ t.leap = true) :
    t.rank = t.nanos + t.nanos / nanosPerSecond * nanosPerSecond := by
  simp [rank, h]

lemma rank_last : last.rank = latest + latest / nanosPerSecond * nanosPerSecond :=
  rank_of_not_leap nofun

lemma before_eq_false_iff (t u : Instant) : t.before u = false ↔ u.rank ≤ t.rank := by
  rw [before, decide_eq_false_iff_not, Int.not_lt]

lemma rank_add_le {t : Instant} (ht : last.before t = false) {s s' : Span}
    (h : s.nanos ≤ s'.nanos) : (t.add s).rank ≤ (t.add s').rank := by
  -- There is a leap second behind the last moment. A clock in it would have to go back.
  have hnanos := nanos_add t s
  have hnanos' := nanos_add t s'
  by_cases hleap' : (t.add s').leap = true
  · obtain ⟨htleap, hsecond'⟩ := (leap_add_iff t s').mp hleap'
    have hleap : (t.add s).leap = true := (leap_add_iff t s).mpr ⟨htleap, by omega⟩
    rw [rank_of_leap hleap, rank_of_leap hleap', hnanos, hnanos']
    simp only [latest, nanosPerSecond]
    omega
  by_cases hleap : (t.add s).leap = true
  · -- The longer span alone leaves the leap second.
    obtain ⟨htleap, hsecond⟩ := (leap_add_iff t s).mp hleap
    have hsecond' : ¬ t.nanos % nanosPerSecond + s'.nanos < nanosPerSecond :=
      fun hs' => hleap' ((leap_add_iff t s').mpr ⟨htleap, hs'⟩)
    rw [before_eq_false_iff, rank_of_leap htleap, rank_last] at ht
    rw [rank_of_leap hleap, rank_of_not_leap hleap', hnanos, hnanos']
    simp only [latest, nanosPerSecond] at *
    omega
  · rw [rank_of_not_leap hleap, rank_of_not_leap hleap', hnanos, hnanos']
    simp only [latest, nanosPerSecond]
    omega

lemma before_add {t : Instant} (ht : t.before last = true) {s : Span} (hs : 0 < s.nanos) :
    t.before (t.add s) = true := by
  have hnanos := nanos_add t s
  have hrank : t.rank < last.rank := of_decide_eq_true ht
  refine decide_eq_true ?_
  rw [rank_last] at hrank
  by_cases hleap : (t.add s).leap = true
  · obtain ⟨htleap, -⟩ := (leap_add_iff t s).mp hleap
    rw [rank_of_leap htleap] at hrank
    rw [rank_of_leap htleap, rank_of_leap hleap, hnanos]
    simp only [latest, nanosPerSecond] at *
    omega
  by_cases htleap : t.leap = true
  · have hsecond : ¬ t.nanos % nanosPerSecond + s.nanos < nanosPerSecond :=
      fun hs' => hleap ((leap_add_iff t s).mpr ⟨htleap, hs'⟩)
    rw [rank_of_leap htleap] at hrank
    rw [rank_of_leap htleap, rank_of_not_leap hleap, hnanos]
    simp only [latest, nanosPerSecond] at *
    omega
  · rw [rank_of_not_leap htleap] at hrank
    rw [rank_of_not_leap htleap, rank_of_not_leap hleap, hnanos]
    simp only [latest, nanosPerSecond] at *
    omega

end Time.Instant

namespace Cache

open Schema Time

variable {c : Cache} {i : Identity} {schema : Schema} {s : Step} {y : Span}

lemma advance_of_le (h : y.nanos ≤ Span.longestStep.nanos) :
    c.advance y = c.setClock (c.clock.add y) :=
  if_pos h

lemma advance_of_lt (h : Span.longestStep.nanos < y.nanos) : c.advance y = c :=
  if_neg (Nat.not_le.mpr h)

lemma Takes.clock (h : c.Takes i schema s) : (c.step s).2.clock = c.clock := by
  cases h with
  | saved => exact clock_of_save rfl
  | loaded => exact get_clock c i

lemma Takes.stale (h : c.Takes i schema s) (hclock : Instant.last.before c.clock = false)
    (hy : c.ttl.nanos ≤ y.nanos) : ((c.step s).2.setClock (c.clock.add y)).fresh? i = none := by
  rw [fresh?_eq_none_iff]
  intro held hheld
  obtain rfl := Option.some.inj (h.held.symm.trans hheld)
  exact (Instant.before_eq_false_iff _ _).mpr (Instant.rank_add_le hclock hy)

/-- A step moves the clock on by its span or to the last moment, and a longer step takes it not less
far. What was taken up before a step of the time to live or more is not served behind it: the store
is asked. All this holds of the spans that are not too long for one step. Any other leaves
everything as it was, and what was just taken up is still served. A clock behind the last moment, in
the leap second there, is left out. -/
theorem outlasted_within_longest_step (c : Cache) (hclock : Instant.last.before c.clock = false) :
    (∀ y : Span, y.nanos ≤ Span.longestStep.nanos →
      (c.advance y).clock = c.clock.add y ∧
      (c.advance y).clock.nanos = min (c.clock.nanos + y.nanos) latest ∧
      (∀ x : Span, x.nanos ≤ y.nanos → (c.advance y).clock.before (c.advance x).clock = false) ∧
      ∀ i schema s, c.Takes i schema s → c.ttl.nanos ≤ y.nanos →
        (((c.step s).2.advance y).get i).2.source.reads = (c.step s).2.source.reads + 1) ∧
    ∀ y : Span, Span.longestStep.nanos < y.nanos →
      c.advance y = c ∧
      ∀ i schema s, c.Takes i schema s → 0 < c.ttl.nanos → c.clock.before .last = true →
        ((c.step s).2.advance y).get i = (.ok (some schema), (c.step s).2) := by
  constructor
  · intro y hy
    have hmoved : (c.advance y).clock = c.clock.add y := congrArg Cache.clock (advance_of_le hy)
    refine ⟨hmoved, hmoved ▸ Instant.nanos_add c.clock y, ?_, ?_⟩
    · intro x hx
      rw [hmoved, advance_of_le (Nat.le_trans hx hy)]
      exact (Instant.before_eq_false_iff _ _).mpr (Instant.rank_add_le hclock hx)
    · intro i schema s htakes httl
      rw [advance_of_le hy, htakes.clock, (get_of_fresh?_eq_none (htakes.stale hclock httl)).2]
      rfl
  · intro y hy
    refine ⟨advance_of_lt hy, ?_⟩
    intro i schema s htakes httl hbefore
    have hfresh : (c.step s).2.clock.before c.expiry = true :=
      htakes.clock ▸ Instant.before_add hbefore httl
    rw [advance_of_lt hy]
    exact get_of_fresh? (fresh?_of_held htakes.held hfresh)

theorem outlasted_within_longest_step_pump :
    let c := new (.new .empty) .epoch (.ofSeconds 60)
    Instant.last.before c.clock = false ∧ c.Takes ⟨"pump", "1"⟩ pumpSchema (.save pumpSchema) ∧
    (((c.step (.save pumpSchema)).2.advance (.ofSeconds 60)).get ⟨"pump", "1"⟩).2.source.reads =
      (c.step (.save pumpSchema)).2.source.reads + 1 := by
  intro c
  have hclock : Instant.last.before c.clock = false := by decide
  have htakes : c.Takes ⟨"pump", "1"⟩ pumpSchema (.save pumpSchema) := .saved rfl rfl
  obtain ⟨hsteps, -⟩ := outlasted_within_longest_step c hclock
  obtain ⟨-, -, -, hasked⟩ := hsteps (.ofSeconds 60) (by decide)
  exact ⟨hclock, htakes, hasked _ _ _ htakes (Nat.le_refl _)⟩

/-- A step of about 2 ^ 63 milliseconds: the clock is neither where the span leads nor at the last
moment, a step of a minute takes it further, and a schema that was taken up for a minute is served
without a look at the store. -/
theorem overlong_step_stands_still :
    let c := new (.new .empty) .epoch (.ofSeconds 60)
    let y := Span.ofSeconds 9223372036854776
    let taken := (c.step (.save pumpSchema)).2
    (c.advance y).clock.nanos ≠ min (c.clock.nanos + y.nanos) latest ∧
    (c.advance y).clock.before (c.advance (.ofSeconds 60)).clock = true ∧
    c.ttl.nanos ≤ y.nanos ∧ c.Takes ⟨"pump", "1"⟩ pumpSchema (.save pumpSchema) ∧
    ((taken.advance y).get ⟨"pump", "1"⟩).2.source.reads = taken.source.reads :=
  ⟨by decide, by decide, by decide, .saved rfl rfl, rfl⟩

end Cache

end Telemetry
