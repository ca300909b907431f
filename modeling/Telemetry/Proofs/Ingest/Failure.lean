import Telemetry.Proofs.Ingest.Exit

namespace Telemetry

namespace Ingest.Metrics

def tally (t : Table String UInt64) (label : String) : UInt64 := (t.get? label).getD 0

lemma tally_bump (t : Table String UInt64) (label other : String) (n : UInt64) :
    tally (bump t label n) other = tally t other + if label = other then n else 0 := by
  unfold tally bump
  rw [Table.get?_insert]
  by_cases h : label = other
  · subst h
    simp
  · simp [h]

lemma addSkipped_frame (m : Metrics) (reason : Resolution.SkipReason) (n : Nat) :
    (m.addSkipped reason n).batchSize = m.batchSize ∧
      (m.addSkipped reason n).decodeErrors = m.decodeErrors := by
  unfold addSkipped
  split <;> exact ⟨rfl, rfl⟩

end Ingest.Metrics

namespace Ingestor

open Ingest Resolution Schema Time Wire

lemma accept_metrics (i : Ingestor) (device : Device) (r : Resolved) :
    (i.accept device r).2.metrics.map (·.batchSize) = i.metrics.map (·.batchSize) ∧
      (i.accept device r).2.metrics.map (·.decodeErrors) = i.metrics.map (·.decodeErrors) := by
  cases hm : i.metrics with
  | none => simp [accept, countMetrics, hm]
  | some m =>
    simp only [accept, countMetrics, hm, Option.map_some, Metrics.addSkipped_frame]
    exact ⟨rfl, rfl⟩

namespace Exit

variable {i i' : Ingestor} {device : Device} {body : List UInt8} {r : Except IngestError Report}

lemma kept {e : IngestError} (h : Exit i device body (.error e) i') :
    i'.sink = i.sink ∧ i'.publisher = i.publisher ∧
      i'.metrics.map (·.batchesDecoded) = i.metrics.map (·.batchesDecoded) ∧
      i'.metrics.map (·.stored) = i.metrics.map (·.stored) ∧
      i'.metrics.map (·.skipped) = i.metrics.map (·.skipped) := by
  cases h with
  | tooLarge => exact ⟨rfl, rfl, rfl, rfl, rfl⟩
  | lookupFailed | noSchema | malformed =>
    refine ⟨rfl, rfl, ?_⟩
    simp only [consulted, countMetrics, Option.map_map]
    exact ⟨rfl, rfl, rfl⟩

lemma eq_of_tooLarge (h : Exit i device body r i') (hsize : i.limits.maxBodyBytes < body.length) :
    r = .error (.bodyTooLarge body.length i.limits.maxBodyBytes) ∧ i' = i := by
  cases h with
  | tooLarge => exact ⟨rfl, rfl⟩
  | lookupFailed hfits | noSchema hfits | malformed hfits | accepted hfits =>
    exact absurd hsize (Nat.not_lt.mpr hfits)

lemma tooLarge_iff (h : Exit i device body r i') :
    (∃ size max, r = .error (.bodyTooLarge size max)) ↔ i.limits.maxBodyBytes < body.length := by
  constructor
  · rintro ⟨size, max, rfl⟩
    cases h with
    | tooLarge hsize => exact hsize
  · intro hsize
    exact ⟨_, _, (h.eq_of_tooLarge hsize).1⟩

lemma ne_publish (h : Exit i device body r i') (reason : String) :
    r ≠ .error (.publish reason) := by
  rintro rfl
  cases h

lemma schema_iff (h : Exit i device body r i') (hfits : body.length ≤ i.limits.maxBodyBytes)
    (e : SchemaError) :
    r = .error (.schema e) ↔ (i.cache.get ⟨device.app, device.version⟩).1 = .error e := by
  cases h with
  | tooLarge hsize => exact absurd hsize (Nat.not_lt.mpr hfits)
  | lookupFailed _ hfound => simp [hfound]
  | noSchema _ hfound => simp [hfound]
  | malformed _ hfound => simp [hfound]
  | accepted _ hfound => simp [hfound]

lemma schemaNotFound_iff (h : Exit i device body r i') (hfits : body.length ≤ i.limits.maxBodyBytes)
    (j : Identity) : r = .error (.schemaNotFound j) ↔
      (i.cache.get ⟨device.app, device.version⟩).1 = .ok none ∧
        j = ⟨device.app, device.version⟩ := by
  cases h with
  | tooLarge hsize => exact absurd hsize (Nat.not_lt.mpr hfits)
  | lookupFailed _ hfound => simp [hfound]
  | noSchema _ hfound => simp [hfound, eq_comm]
  | malformed _ hfound => simp [hfound]
  | accepted _ hfound => simp [hfound]

lemma decode_iff (h : Exit i device body r i') (hfits : body.length ≤ i.limits.maxBodyBytes)
    (e : DecodeError) : r = .error (.decode e) ↔
      ∃ schema, (i.cache.get ⟨device.app, device.version⟩).1 = .ok (some schema) ∧
        resolveBatch schema.lookup i.cache.clock body = .error e := by
  cases h with
  | tooLarge hsize => exact absurd hsize (Nat.not_lt.mpr hfits)
  | lookupFailed _ hfound => simp [hfound]
  | noSchema _ hfound => simp [hfound]
  | malformed _ hfound he => simp [hfound, he]
  | accepted _ hfound hr => simp [hfound, hr]

lemma batchSize (h : Exit i device body r i') (hfits : body.length ≤ i.limits.maxBodyBytes) :
    i'.metrics.map (·.batchSize) = i.metrics.map (·.batchSize.observe body.length) := by
  cases h with
  | tooLarge hsize => exact absurd hsize (Nat.not_lt.mpr hfits)
  | lookupFailed | noSchema | malformed =>
    simp only [consulted, countMetrics, Option.map_map]
    rfl
  | accepted =>
    rw [(accept_metrics _ _ _).1]
    simp only [consulted, countMetrics, Option.map_map]
    rfl

lemma decodeErrors_of_decode {e : DecodeError} (h : Exit i device body (.error (.decode e)) i') :
    i'.metrics.map (·.decodeErrors) =
      i.metrics.map fun m => Metrics.bump m.decodeErrors e.kind 1 := by
  cases h with
  | malformed =>
    simp only [consulted, countMetrics, Option.map_map]
    rfl

lemma decodeErrors_of_ne (h : Exit i device body r i') (hr : ∀ e, r ≠ .error (.decode e)) :
    i'.metrics.map (·.decodeErrors) = i.metrics.map (·.decodeErrors) := by
  cases h with
  | tooLarge => rfl
  | lookupFailed | noSchema =>
    simp only [consulted, countMetrics, Option.map_map]
    rfl
  | malformed => exact absurd rfl (hr _)
  | accepted =>
    rw [(accept_metrics _ _ _).2]
    simp only [consulted, countMetrics, Option.map_map]
    rfl

end Exit

theorem ingest_failure (i : Ingestor) (device : Device) (body : List UInt8) :
    let found := (i.cache.get ⟨device.app, device.version⟩).1
    let result := (i.ingest device body).1
    let after := (i.ingest device body).2
    (∀ e, result = .error e →
      after.sink = i.sink ∧ after.publisher = i.publisher ∧
      after.metrics.map (·.batchesDecoded) = i.metrics.map (·.batchesDecoded) ∧
      after.metrics.map (·.stored) = i.metrics.map (·.stored) ∧
      after.metrics.map (·.skipped) = i.metrics.map (·.skipped)) ∧
    ((∃ size max, result = .error (.bodyTooLarge size max)) ↔
      i.limits.maxBodyBytes < body.length) ∧
    (i.limits.maxBodyBytes < body.length →
      result = .error (.bodyTooLarge body.length i.limits.maxBodyBytes) ∧ after = i) ∧
    (body.length ≤ i.limits.maxBodyBytes →
      (∀ e, result = .error (.schema e) ↔ found = .error e) ∧
      (∀ j, result = .error (.schemaNotFound j) ↔
        found = .ok none ∧ j = ⟨device.app, device.version⟩) ∧
      (∀ e, result = .error (.decode e) ↔ ∃ schema, found = .ok (some schema) ∧
        resolveBatch schema.lookup i.cache.clock body = .error e) ∧
      after.metrics.map (·.batchSize) = i.metrics.map (·.batchSize.observe body.length) ∧
      after.metrics.map (·.batchSize.count) = i.metrics.map (·.batchSize.count + 1)) ∧
    (∀ reason, result ≠ .error (.publish reason)) ∧
    (∀ e, result = .error (.decode e) → ∀ kind,
      after.metrics.map (fun m => Metrics.tally m.decodeErrors kind) =
        i.metrics.map fun m =>
          Metrics.tally m.decodeErrors kind + if e.kind = kind then 1 else 0) ∧
    ((∀ e, result ≠ .error (.decode e)) →
      after.metrics.map (·.decodeErrors) = i.metrics.map (·.decodeErrors)) := by
  intro found result after
  have hexit : Exit i device body result after := exit_of_ingest rfl
  refine ⟨?_, hexit.tooLarge_iff, hexit.eq_of_tooLarge, ?_, hexit.ne_publish, ?_,
    hexit.decodeErrors_of_ne⟩
  · intro e he
    rw [he] at hexit
    exact hexit.kept
  · intro hfits
    have hsize := hexit.batchSize hfits
    have hcount := congrArg (Option.map Histogram.count) hsize
    rw [Option.map_map, Option.map_map] at hcount
    exact ⟨hexit.schema_iff hfits, hexit.schemaNotFound_iff hfits, hexit.decode_iff hfits, hsize,
      hcount⟩
  · intro e he kind
    rw [he] at hexit
    have htally := congrArg (Option.map (Metrics.tally · kind)) hexit.decodeErrors_of_decode
    simp only [Option.map_map, Function.comp_def, Metrics.tally_bump] at htally
    exact htally

end Ingestor

end Telemetry
