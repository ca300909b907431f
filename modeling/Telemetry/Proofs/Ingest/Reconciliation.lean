import Telemetry.Proofs.Ingest.Counting
import Telemetry.Proofs.Resolution.Size

/-! Over a whole run of an ingestor the metrics, the sink, the published events and the answers tell
the same story. -/

namespace Telemetry

open Ingest Resolution Schema Wire

namespace Ingest

def Answer.result? : Answer → Option Result
  | .ingested r => some r
  | _ => none

def Step.size : Step → Nat
  | .ingest _ body => body.length
  | _ => 0

end Ingest

namespace Ingestor

def run (i : Ingestor) (steps : List Step) : Ingestor :=
  steps.foldl (fun i s => (i.step s).2) i

def results : Ingestor → List Step → List Result
  | _, [] => []
  | i, s :: steps => (i.step s).1.result?.toList ++ (i.step s).2.results steps

@[simp] lemma run_nil (i : Ingestor) : i.run [] = i := rfl

lemma run_append_singleton (i : Ingestor) (steps : List Step) (s : Step) :
    i.run (steps ++ [s]) = ((i.run steps).step s).2 := by
  simp [run]

lemma results_append_singleton (i : Ingestor) (steps : List Step) (s : Step) :
    i.results (steps ++ [s]) = i.results steps ++ ((i.run steps).step s).1.result?.toList := by
  induction steps generalizing i with
  | nil => simp [results]
  | cons t steps ih =>
    simp only [List.cons_append, results, ih, List.append_assoc]
    rfl

def fresh (cache : Cache) (limits : Limits) (failing : Bool) : Ingestor :=
  ⟨cache, .empty, ⟨[], failing⟩, limits, some .empty⟩

namespace Exit

variable {i i' : Ingestor} {device : Device} {body : List UInt8} {r : Result}

lemma metrics_eq (h : Exit i device body r i') :
    i'.metrics = i.metrics.map (·.after body.length r) := by
  cases h with
  | tooLarge => cases i.metrics <;> rfl
  | lookupFailed | noSchema => rfl
  | malformed | accepted =>
    cases hm : i.metrics <;> simp [accept, consulted, countMetrics, hm, Metrics.after]

lemma settings (h : Exit i device body r i') :
    i'.limits = i.limits ∧ i'.publisher.failing = i.publisher.failing := by
  cases h with
  | tooLarge | lookupFailed | noSchema | malformed => exact ⟨rfl, rfl⟩
  | @accepted schema resolved =>
    refine ⟨rfl, ?_⟩
    cases hf : i.publisher.failing <;> simp [accept, consulted, countMetrics, Publisher.publish, hf]

lemma stored {report : Report} (h : Exit i device body (.ok report) i') :
    i'.sink.records.length = i.sink.records.length + report.stored := by
  cases h with
  | accepted =>
    rw [accept_records, accept_report, List.length_append, List.length_map]
    rfl

lemma published {report : Report} (h : Exit i device body (.ok report) i') :
    i'.publisher.published = i.publisher.published ++
      if i.publisher.failing then [] else [(report.event device).publication i.limits.topic] := by
  cases h with
  | accepted =>
    rw [accept_published]
    rfl

lemma report_le {report : Report} (h : Exit i device body (.ok report) i') :
    report.stored + report.skippedUnknown + report.skippedEmpty ≤ body.length := by
  cases h with
  | @accepted schema resolved _ _ hresolved =>
    obtain ⟨ms, hms, rfl⟩ := (resolveBatch_eq_ok_iff _ _ _ _).mp hresolved
    have hbody := Measurement.size_le_of_decodeAll hms
    have hlength := resolve_length schema.lookup i.cache.clock ms
    have hstored := accept_total (i.consulted device body) device
      (resolve schema.lookup i.cache.clock ms)
    rw [accept_report] at hstored ⊢
    simp only at hstored ⊢
    omega

end Exit

lemma results_length_le (i : Ingestor) (steps : List Step) :
    (i.results steps).length ≤ steps.length := by
  induction steps generalizing i with
  | nil => exact Nat.le_refl 0
  | cons s steps ih =>
    have hrest := ih (i.step s).2
    have hone : (i.step s).1.result?.toList.length ≤ 1 := by
      cases (i.step s).1.result? <;> simp
    rw [results, List.length_append, List.length_cons]
    omega

lemma total_results_le {f : Report → Nat}
    (hf : ∀ r : Report, f r ≤ r.stored + r.skippedUnknown + r.skippedEmpty) (i : Ingestor)
    (steps : List Step) : total f (i.results steps) ≤ (steps.map Step.size).sum := by
  induction steps generalizing i with
  | nil => exact Nat.le_refl 0
  | cons s steps ih =>
    have hrest := ih (i.step s).2
    have hone : total f (i.step s).1.result?.toList ≤ s.size := by
      cases s with
      | cache | reject => exact Nat.le_refl 0
      | ingest device body =>
        rcases hr : i.ingest device body with ⟨r, i'⟩
        have hexit := exit_of_ingest hr
        simp only [Ingestor.step, hr, Answer.result?, Option.toList_some]
        cases r with
        | error e => exact Nat.zero_le _
        | ok report =>
          have hreport := hf report
          have hbody := hexit.report_le
          rw [total_singleton_ok, Step.size]
          omega
    rw [results, total_append, List.map_cons, List.sum_cons]
    omega

lemma fits_results (i : Ingestor) {steps : List Step} (hcalls : steps.length < UInt64.size)
    (hbytes : (steps.map Step.size).sum < UInt64.size) : Fits (i.results steps) where
  observed :=
    ((noted_le_length _).trans (i.results_length_le steps)).trans_lt hcalls
  stored := (total_results_le (fun r => by omega) i steps).trans_lt hbytes
  skipped := by
  -- No counter runs over before that many bytes were sent.
    intro reason
    have hle : ∀ r : Report, r.skipped reason ≤ r.stored + r.skippedUnknown + r.skippedEmpty := by
      intro r
      cases reason <;> simp only [Report.skipped] <;> omega
    exact (total_results_le hle i steps).trans_lt hbytes

structure Reconciled (limits : Limits) (failing : Bool) (rs : List Result) (i : Ingestor) :
    Prop where
  configured : i.limits = limits
  working : i.publisher.failing = failing
  records : i.sink.records.length = total (·.stored) rs
  events : ∃ events : List Event, events.map (·.count) = (reports rs).map (·.stored) ∧
    events.map (·.timestamp) = (reports rs).map (·.timestamp) ∧
    i.publisher.published = if failing then [] else events.map (·.publication limits.topic)
  metrics : ∃ m, i.metrics = some m ∧ m.Matches rs

variable {limits : Limits} {failing : Bool} {rs : List Result} {i : Ingestor}

lemma Reconciled.fresh (cache : Cache) :
    Reconciled limits failing [] (fresh cache limits failing) where
  configured := rfl
  working := rfl
  records := rfl
  events := ⟨[], rfl, rfl, by cases failing <;> rfl⟩
  metrics := ⟨.empty, rfl, Metrics.matches_empty⟩

lemma Reconciled.refused (h : Reconciled limits failing rs i) {device : Device} {body : List UInt8}
    {e : IngestError} {i' : Ingestor} (hexit : Exit i device body (.error e) i')
    (hfits : Fits (rs ++ [.error e])) : Reconciled limits failing (rs ++ [.error e]) i' := by
  obtain ⟨hsink, hpublisher, -⟩ := hexit.kept
  obtain ⟨m, hm, hmatches⟩ := h.metrics
  constructor
  · rw [hexit.settings.1, h.configured]
  · rw [hpublisher, h.working]
  · rw [hsink, total_append_error, h.records]
  · rw [hpublisher, reports_append_error]
    exact h.events
  · have he : ∀ reason, e ≠ .publish reason := fun reason hreason =>
      hexit.ne_publish reason (congrArg _ hreason)
    refine ⟨m.after body.length (.error e), ?_, hmatches.after_error _ he hfits⟩
    rw [hexit.metrics_eq, hm, Option.map_some]

lemma Reconciled.taken (h : Reconciled limits failing rs i) {device : Device} {body : List UInt8}
    {report : Report} {i' : Ingestor} (hexit : Exit i device body (.ok report) i')
    (hfits : Fits (rs ++ [.ok report])) : Reconciled limits failing (rs ++ [.ok report]) i' := by
  obtain ⟨m, hm, hmatches⟩ := h.metrics
  obtain ⟨events, hcounts, htimes, hpublished⟩ := h.events
  constructor
  · rw [hexit.settings.1, h.configured]
  · rw [hexit.settings.2, h.working]
  · rw [hexit.stored, total_append_ok, h.records]
  · refine ⟨events ++ [report.event device], ?_, ?_, ?_⟩
    · rw [reports_append_ok, List.map_append, List.map_append, hcounts]
      rfl
    · rw [reports_append_ok, List.map_append, List.map_append, htimes]
      rfl
    · rw [hexit.published, hpublished, h.working, h.configured]
      cases failing <;> simp
  · refine ⟨m.after body.length (.ok report), ?_, hmatches.after_ok _ hfits⟩
    rw [hexit.metrics_eq, hm, Option.map_some]

lemma Reconciled.step (h : Reconciled limits failing rs i) (s : Step)
    (hfits : Fits (rs ++ (i.step s).1.result?.toList)) :
    Reconciled limits failing (rs ++ (i.step s).1.result?.toList) (i.step s).2 := by
  cases s with
  | cache | reject =>
    simp only [Ingestor.step, Answer.result?, Option.toList_none, List.append_nil]
    exact ⟨h.configured, h.working, h.records, h.events, h.metrics⟩
  | ingest device body =>
    rcases hr : i.ingest device body with ⟨r, i'⟩
    have hexit := exit_of_ingest hr
    simp only [Ingestor.step, hr, Answer.result?, Option.toList_some] at hfits ⊢
    cases r with
    | error e => exact h.refused hexit hfits
    | ok report => exact h.taken hexit hfits

lemma reconciled_run (cache : Cache) (steps : List Step)
    (hfits : Fits ((fresh cache limits failing).results steps)) :
    Reconciled limits failing ((fresh cache limits failing).results steps)
      ((fresh cache limits failing).run steps) := by
  -- A run grows at its end, where the answer to its last step is appended to the others.
  induction steps using List.reverseRecOn with
  | nil => exact .fresh cache
  | append_singleton steps s ih =>
    rw [results_append_singleton] at hfits ⊢
    rw [run_append_singleton]
    have hbefore : Fits ((fresh cache limits failing).results steps) := by
      cases hs : (((fresh cache limits failing).run steps).step s).1.result? with
      | none => simpa [hs] using hfits
      | some r =>
        rw [hs, Option.toList_some] at hfits
        exact hfits.of_append
    exact (ih hbefore).step s hfits

/-- However the calls of a run end, every counter can be recovered from the answers, and what was
stored and what was announced as well. -/
theorem run_reconciles (cache : Cache) (limits : Limits) (failing : Bool) (steps : List Step)
    (hfits : Fits ((fresh cache limits failing).results steps)) :
    let rs := (fresh cache limits failing).results steps
    let after := (fresh cache limits failing).run steps
    ∃ m, after.metrics = some m ∧
      m.stored.toNat = after.sink.records.length ∧
      m.stored.toNat = total (·.stored) rs ∧
      m.batchesDecoded.toNat = (reports rs).length ∧
      (failing = false → ∃ events : List Event,
        after.publisher.published = events.map (·.publication limits.topic) ∧
        List.Forall₂ (fun p e => p.topic = limits.topic ∧ e.AnnouncedBy p.payload)
          after.publisher.published events ∧
        events.map (·.count) = (reports rs).map (·.stored) ∧
        events.map (·.timestamp) = (reports rs).map (·.timestamp) ∧
        events.length = m.batchesDecoded.toNat ∧
        (events.map (·.count)).sum = after.sink.records.length) ∧
      (∀ reason : SkipReason, (m.skipped.get? reason.name).map UInt64.toNat =
        if 0 < total (·.skipped reason) rs then some (total (·.skipped reason) rs) else none) ∧
      (∀ label, (∀ reason : SkipReason, reason.name ≠ label) → m.skipped.get? label = none) ∧
      Metrics.sum m.decodeErrors = (refusals rs).countP (·.isDecode) ∧
      m.batchSize.count.toNat = m.batchesDecoded.toNat + Metrics.sum m.decodeErrors +
        (refusals rs).countP (·.lacksSchema) ∧
      rs.length = m.batchSize.count.toNat + (refusals rs).countP (·.isTooLarge) := by
  intro rs after
  have h : Reconciled limits failing rs after := reconciled_run cache steps hfits
  obtain ⟨m, hm, hmatches⟩ := h.metrics
  obtain ⟨events, hcounts, htimes, hpublished⟩ := h.events
  refine ⟨m, hm, ?_, hmatches.stored, hmatches.decoded, ?_, hmatches.skipped.count,
    hmatches.skipped.other, hmatches.decodeErrors, ?_, hmatches.calls⟩
  · rw [hmatches.stored, h.records]
  · intro hworks
    rw [hworks, if_neg Bool.false_ne_true] at hpublished
    refine ⟨events, hpublished, ?_, hcounts, htimes, ?_, ?_⟩
    · rw [hpublished, List.forall₂_map_left_iff, List.forall₂_same]
      exact fun e _ => ⟨rfl, e.announcedBy_publication _⟩
    · have hlength := congrArg List.length hcounts
      rw [List.length_map, List.length_map] at hlength
      rw [hlength, hmatches.decoded]
    · rw [hcounts, h.records, total]
  · rw [hmatches.observed, noted, hmatches.decoded, hmatches.decodeErrors]

def plantShift : List Step :=
  let pump : Device := ⟨"p7", "pump", "1"⟩
  [.ingest pump plantBatch, .reject "flow", .ingest pump plantBatch, .ingest pump [10],
    .cache (.setOffline true), .ingest ⟨"f1", "fan", "2"⟩ []]

theorem run_reconciles_plant :
    let after := (fresh plant.cache plant.limits false).run plantShift
    ∃ (m : Metrics) (events : List Event), after.metrics = some m ∧ m.stored.toNat = 3 ∧
      after.sink.records.length = 3 ∧
      List.Forall₂ (fun p e => p.topic = "telemetry" ∧ e.AnnouncedBy p.payload)
        after.publisher.published events ∧
      events.map (·.count) = [2, 1] ∧
      (m.skipped.get? "unknown_id").map UInt64.toNat = some 2 ∧
      m.batchSize.count.toNat = 4 := by
  let rs := (fresh plant.cache plant.limits false).results plantShift
  have hreports : (reports rs).map (·.stored) = [2, 1] := by decide +kernel
  have hunknown : total (·.skipped .unknownId) rs = 2 := by decide +kernel
  have hrefusals : (refusals rs).countP (·.isDecode) = 1 ∧
      (refusals rs).countP (·.lacksSchema) = 1 := by decide +kernel
  have hfits : Fits rs := fits_results _ (by decide) (by decide)
  obtain ⟨m, hm, hrecords, hstored, hdecoded, hevents, hskipped, -, herrors, hcount, -⟩ :=
    run_reconciles plant.cache plant.limits false plantShift hfits
  obtain ⟨events, -, hannounced, hcounts, -⟩ := hevents rfl
  have hthree : m.stored.toNat = 3 := by
    rw [hstored, total, hreports]
    rfl
  have htwo : m.batchesDecoded.toNat = 2 := by
    rw [hdecoded, ← List.length_map (f := (·.stored)), hreports]
    rfl
  refine ⟨m, events, hm, hthree, hrecords.symm.trans hthree, hannounced, hcounts.trans hreports,
    ?_, ?_⟩
  · exact (hskipped .unknownId).trans (by rw [hunknown]; rfl)
  · rw [hcount, htwo, herrors, hrefusals.1, hrefusals.2]

end Ingestor

end Telemetry
