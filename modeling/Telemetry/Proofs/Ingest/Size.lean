import Telemetry.Proofs.Ingest.Accounting
import Telemetry.Proofs.Resolution.Size

/-! The limit on the size of a body is a limit on what comes of it. -/

namespace Telemetry.Ingestor

open Ingest Resolution Schema Time Wire

lemma size_le_of_ingest {i i' : Ingestor} {device : Device} {body : List UInt8} {report : Report}
    (h : i.ingest device body = (.ok report, i')) :
    ∃ ms kept, Measurement.decodeAll body = .ok ms ∧
      i'.sink.records = i.sink.records ++ kept ∧ kept.length = report.stored ∧
      report.stored ≤ i.limits.maxBodyBytes / 4 ∧ ms.length ≤ i.limits.maxBodyBytes / 2 ∧
      report.stored + report.storageFailures + report.skippedUnknown + report.skippedEmpty ≤
        ms.length := by
  cases exit_of_ingest h with
  | @accepted schema r hfits hfound hr =>
    obtain ⟨ms, hms, rfl⟩ := (resolveBatch_eq_ok_iff _ _ _ _).mp hr
    have hbatch := size_le_of_resolve hms schema.lookup i.cache.clock
    have hmeasurements := Measurement.size_le_of_decodeAll hms
    have hlength := resolve_length schema.lookup i.cache.clock ms
    have htotal := accept_total (i.consulted device body) device
      (resolve schema.lookup i.cache.clock ms)
    have hreport := accept_report (i.consulted device body) device
      (resolve schema.lookup i.cache.clock ms)
    refine ⟨ms, _, hms, accept_records _ _ _, ?_, by omega, by omega, ?_⟩
    · rw [hreport, List.length_map]
    · simp only [hreport] at htotal ⊢
      omega

/-- A field takes two bytes besides the payload that it delimits. A measurement takes two bytes of a
batch, and one that becomes a reading takes four. So the limit on the size of a body bounds the
records that are stored and the measurements that are listed, whatever the schema. -/
theorem output_bounded :
    (∀ bytes m, Message.decode bytes = .ok m →
      2 * m.length + ((m.filterMap (·.payload.bytes?)).map List.length).sum ≤ bytes.length) ∧
    (∀ lookup fallback bytes r, resolveBatch lookup fallback bytes = .ok r →
      ∃ ms, Measurement.decodeAll bytes = .ok ms ∧
        4 * r.readings.length + 2 * r.skipped.length + 2 * ms.countP (NamedTimestamp lookup ·) ≤
          bytes.length) ∧
    ∀ (i i' : Ingestor) device body report, i.ingest device body = (.ok report, i') →
      ∃ ms kept, Measurement.decodeAll body = .ok ms ∧
        i'.sink.records = i.sink.records ++ kept ∧ kept.length = report.stored ∧
        report.stored ≤ i.limits.maxBodyBytes / 4 ∧ ms.length ≤ i.limits.maxBodyBytes / 2 ∧
        report.stored + report.storageFailures + report.skippedUnknown + report.skippedEmpty ≤
          ms.length := by
  refine ⟨?_, ?_, fun i i' device body report => size_le_of_ingest⟩
  · intro bytes m hm
    exact Message.size_eq m ▸ Message.size_le_of_decode hm
  · intro lookup fallback bytes r hr
    obtain ⟨ms, hms, rfl⟩ := (resolveBatch_eq_ok_iff _ _ _ _).mp hr
    exact ⟨ms, hms, size_le_of_resolve hms lookup fallback⟩

def counterSchema : Schema :=
  (Schema.new ⟨"counter", "1"⟩).withEntry ⟨0, "count", "int32", ""⟩

def counterBatch : List UInt8 := [10, 2, 32, 1, 10, 2, 32, 2]

def counter : Ingestor where
  cache := .new (.new ⟨Table.empty.insert ⟨"counter", "1"⟩ counterSchema⟩) .epoch (.ofSeconds 60)
  sink := .empty
  publisher := ⟨[], false⟩
  limits := ⟨8, "telemetry"⟩
  metrics := none

theorem output_bounded_counter : ∃ report after,
    counter.ingest ⟨"c1", "counter", "1"⟩ counterBatch = (.ok report, after) ∧
      report.stored = counter.limits.maxBodyBytes / 4 := by
  have hfound : (counter.cache.get ⟨"counter", "1"⟩).1 = .ok (some counterSchema) := rfl
  have hms : Measurement.decodeAll counterBatch =
      .ok [⟨0, some (.int32 1)⟩, ⟨0, some (.int32 2)⟩] := by cbv
  have h := ingest_of_decoded counter ⟨"c1", "counter", "1"⟩ (by decide) hfound hms
  obtain ⟨-, -, hbounded⟩ := output_bounded
  obtain ⟨ms, kept, -, -, -, hstored, -⟩ := hbounded _ _ _ _ _ h
  refine ⟨_, _, h, le_antisymm hstored ?_⟩
  decide

end Telemetry.Ingestor
