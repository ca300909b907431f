import Telemetry.Proofs.Ingest.Announcement
import Telemetry.Proofs.Ingest.Exit
import Telemetry.Proofs.Resolution.Conservation

/-! What a batch that is accepted comes to: its records, its event and its report. -/

namespace Telemetry.Ingestor

open Ingest Resolution Schema Time Wire

lemma accepts_eq (s : Sink) (name : String) : s.accepts name = decide (name ∉ s.rejected) := by
  simp [Sink.accepts]

lemma rejects_eq (s : Sink) (name : String) : (!s.accepts name) = decide (name ∈ s.rejected) := by
  simp [Sink.accepts]

section Accept

variable (i : Ingestor) (device : Device) (r : Resolved)

lemma accept_report : (i.accept device r).1 =
    { stored := (r.readings.filter fun x => x.name ∉ i.sink.rejected).length
      skippedUnknown := r.skippedCount .unknownId
      skippedEmpty := r.skippedCount .missingValue
      storageFailures := (r.readings.filter fun x => x.name ∈ i.sink.rejected).length
      timestamp := r.timestamp } := by
  have hfailures : (records device i.cache.clock r).countP (fun x => !i.sink.accepts x.kind) =
      (r.readings.filter fun x => x.name ∈ i.sink.rejected).length := by
    rw [← List.countP_eq_length_filter]
    simp only [records, List.countP_map, Function.comp_def, rejects_eq]
  have hstored : (records device i.cache.clock r).countP (fun x => i.sink.accepts x.kind) =
      (r.readings.filter fun x => x.name ∉ i.sink.rejected).length := by
    rw [← List.countP_eq_length_filter]
    simp only [records, List.countP_map, Function.comp_def, accepts_eq]
  simp only [accept, Sink.saveAll_eq, hfailures, hstored, Nat.zero_add]

lemma accept_total :
    (i.accept device r).1.stored + (i.accept device r).1.storageFailures = r.readings.length := by
  have htotal := i.sink.saveAll_total ⟨0, 0⟩ (records device i.cache.clock r)
  simp only [records, List.length_map, Nat.zero_add] at htotal
  exact htotal

lemma accept_records : (i.accept device r).2.sink.records = i.sink.records ++
    (r.readings.filter fun x => x.name ∉ i.sink.rejected).map fun x =>
      ⟨device.id, r.timestamp, x.name, x.value, x.unit, i.cache.clock⟩ := by
  simp only [accept, countMetrics, Sink.saveAll_eq, records, Sink.records, List.filter_map,
    Function.comp_def, accepts_eq, Array.toList_append]

lemma accept_published : (i.accept device r).2.publisher.published = i.publisher.published ++
    if i.publisher.failing then []
    else [((i.accept device r).1.event device).publication i.limits.topic] := by
  cases hf : i.publisher.failing <;>
    simp [accept, countMetrics, Publisher.publish, hf, Report.event, Event.publication]

end Accept

lemma ingest_publisher (i : Ingestor) (device : Device) (body : List UInt8) (p : Publisher) :
    ({ i with publisher := p }.ingest device body).1 = (i.ingest device body).1 ∧
      ({ i with publisher := p }.ingest device body).2.sink = (i.ingest device body).2.sink := by
  by_cases hsize : i.limits.maxBodyBytes < body.length
  · rw [ingest, ingest, consult_of_lt hsize,
      consult_of_lt (i := { i with publisher := p }) hsize]
    exact ⟨rfl, rfl⟩
  · have hfits := Nat.le_of_not_lt hsize
    have hp : { i with publisher := p }.consulted device body =
        { i.consulted device body with publisher := p } := rfl
    rw [ingest_of_fits hfits, ingest_of_fits (i := { i with publisher := p }) hfits, hp]
    cases (i.cache.get ⟨device.app, device.version⟩).1 with
    | error e => exact ⟨rfl, rfl⟩
    | ok found =>
      cases found with
      | none => exact ⟨rfl, rfl⟩
      | some schema =>
        simp only [process]
        cases resolveBatch schema.lookup (i.consulted device body).cache.clock body with
        | error e => exact ⟨rfl, rfl⟩
        | ok r => exact ⟨rfl, rfl⟩

lemma ingest_of_decoded (i : Ingestor) (device : Device) {body : List UInt8} {schema : Schema}
    {ms : List Measurement} (hfits : body.length ≤ i.limits.maxBodyBytes)
    (hfound : (i.cache.get ⟨device.app, device.version⟩).1 = .ok (some schema))
    (hms : Measurement.decodeAll body = .ok ms) :
    i.ingest device body =
      (.ok ((i.consulted device body).accept device
        (resolve schema.lookup i.cache.clock ms)).1,
       ((i.consulted device body).accept device (resolve schema.lookup i.cache.clock ms)).2) := by
  have hclock : (i.consulted device body).cache.clock = i.cache.clock := Cache.get_clock i.cache _
  rw [ingest_of_fits hfits, hfound]
  simp only [process, resolveBatch, hclock, hms]

section Moments

variable {i : Ingestor} {lookup reading : Instant} {device : Device} {body : List UInt8}

def consultedAt (i : Ingestor) (lookup reading : Instant) (device : Device) (body : List UInt8) :
    Ingestor :=
  ((i.setClock lookup).consulted device body).setClock reading

lemma ingestAt_of_fits (hfits : body.length ≤ i.limits.maxBodyBytes) :
    i.ingestAt lookup reading device body =
      match ((i.cache.setClock lookup).get ⟨device.app, device.version⟩).1 with
      | .error e => (.error (.schema e), (i.setClock lookup).consulted device body)
      | .ok none => (.error (.schemaNotFound ⟨device.app, device.version⟩),
          (i.setClock lookup).consulted device body)
      | .ok (some schema) => (i.consultedAt lookup reading device body).process device body
          schema := by
  rw [ingestAt, consult_of_le (i := i.setClock lookup) hfits]
  simp only [setClock]
  rcases ((i.cache.setClock lookup).get ⟨device.app, device.version⟩).1 with e | (_ | schema) <;>
    rfl

theorem ingestAt_clock (i : Ingestor) (device : Device) (body : List UInt8) :
    i.ingestAt i.cache.clock i.cache.clock device body = i.ingest device body := by
  by_cases hsize : i.limits.maxBodyBytes < body.length
  · rw [ingest, ingestAt, consult_of_lt hsize, consult_of_lt (i := i.setClock i.cache.clock) hsize]
    rfl
  · have hfits := Nat.le_of_not_lt hsize
    have hclock : (i.consulted device body).cache.clock = i.cache.clock :=
      Cache.get_clock i.cache _
    have hsame : i.consultedAt i.cache.clock i.cache.clock device body = i.consulted device body :=
      calc
        _ = (i.consulted device body).setClock i.cache.clock := rfl
        _ = (i.consulted device body).setClock (i.consulted device body).cache.clock := by
          rw [hclock]
        _ = i.consulted device body := rfl
    rw [ingestAt_of_fits hfits, ingest_of_fits hfits, hsame]
    rfl

variable (i lookup reading device) in
lemma ingestAt_of_decoded {schema : Schema} {ms : List Measurement}
    (hfits : body.length ≤ i.limits.maxBodyBytes)
    (hfound : ((i.cache.setClock lookup).get ⟨device.app, device.version⟩).1 = .ok (some schema))
    (hms : Measurement.decodeAll body = .ok ms) :
    i.ingestAt lookup reading device body =
      (.ok ((i.consultedAt lookup reading device body).accept device
        (resolve schema.lookup reading ms)).1,
       ((i.consultedAt lookup reading device body).accept device
        (resolve schema.lookup reading ms)).2) := by
  have hclock : (i.consultedAt lookup reading device body).cache.clock = reading := rfl
  rw [ingestAt_of_fits hfits, hfound]
  simp only [process, resolveBatch, hclock, hms]

lemma taken_of_ingestAt {i' : Ingestor} {report : Report}
    (h : i.ingestAt lookup reading device body = (.ok report, i')) :
    ∃ schema ms, body.length ≤ i.limits.maxBodyBytes ∧
      ((i.cache.setClock lookup).get ⟨device.app, device.version⟩).1 = .ok (some schema) ∧
      Measurement.decodeAll body = .ok ms ∧
      report = ((i.consultedAt lookup reading device body).accept device
        (resolve schema.lookup reading ms)).1 ∧
      i' = ((i.consultedAt lookup reading device body).accept device
        (resolve schema.lookup reading ms)).2 := by
  by_cases hsize : i.limits.maxBodyBytes < body.length
  · rw [ingestAt, consult_of_lt (i := i.setClock lookup) hsize] at h
    cases h
  · have hfits := Nat.le_of_not_lt hsize
    rw [ingestAt_of_fits hfits] at h
    split at h
    next => cases h
    next => cases h
    next schema hfound =>
      unfold process at h
      split at h
      next => cases h
      next r hr =>
        obtain ⟨ms, hms, rfl⟩ := (resolveBatch_eq_ok_iff _ _ _ _).mp hr
        obtain ⟨hreport, hafter⟩ := Prod.mk.inj h
        exact ⟨schema, ms, hfits, hfound, hms, (Except.ok.inj hreport).symm, hafter.symm⟩

end Moments

/-- What became of each measurement of a body that was taken: the readings that the sink keeps are
appended to it in their order, and every measurement is counted once. One event announces them,
unless the publisher is out of order, which changes nothing else. -/
theorem ingest_accounts {i i' : Ingestor} {device : Device} {body : List UInt8} {report : Report}
    (h : i.ingest device body = (.ok report, i')) :
    ∃ (schema : Schema) (r : Resolved) (ms : List Measurement),
      (i.cache.get ⟨device.app, device.version⟩).1 = .ok (some schema) ∧
      resolveBatch schema.lookup i.cache.clock body = .ok r ∧
      Measurement.decodeAll body = .ok ms ∧
      i'.sink.records = i.sink.records ++
        ((r.readings.filter fun x => x.name ∉ i.sink.rejected).map fun x =>
          ⟨device.id, r.timestamp, x.name, x.value, x.unit, i.cache.clock⟩) ∧
      report =
        { stored := (r.readings.filter fun x => x.name ∉ i.sink.rejected).length
          skippedUnknown := r.skippedCount .unknownId
          skippedEmpty := r.skippedCount .missingValue
          storageFailures := (r.readings.filter fun x => x.name ∈ i.sink.rejected).length
          timestamp := r.timestamp } ∧
      report.stored + report.storageFailures + report.skippedUnknown + report.skippedEmpty +
        ms.countP (carriesTimestamp schema.lookup) = ms.length ∧
      (∃ p : Publication, p.topic = i.limits.topic ∧
        p.payload = (Event.mk device.id device.app device.version report.stored
          report.timestamp).toJson.render ∧
        (Event.mk device.id device.app device.version report.stored
          report.timestamp).AnnouncedBy p.payload ∧
        i'.publisher.published = i.publisher.published ++
          if i.publisher.failing then [] else [p]) ∧
      ∀ p : Publisher, ∃ other : Ingestor,
        { i with publisher := p }.ingest device body = (.ok report, other) ∧
          other.sink = i'.sink := by
  have hpublisher : ∀ p : Publisher, ∃ other : Ingestor,
      { i with publisher := p }.ingest device body = (.ok report, other) ∧
        other.sink = i'.sink := by
    intro p
    obtain ⟨hreport, hsink⟩ := ingest_publisher i device body p
    rw [h] at hreport hsink
    exact ⟨({ i with publisher := p }.ingest device body).2, Prod.ext hreport rfl, hsink⟩
  cases exit_of_ingest h with
  | @accepted schema r hfits hfound hr =>
    have hclock : (i.consulted device body).cache.clock = i.cache.clock :=
      Cache.get_clock i.cache _
    obtain ⟨ms, hms, rfl⟩ : ∃ ms, Measurement.decodeAll body = .ok ms ∧
        resolve schema.lookup i.cache.clock ms = r := by
      unfold resolveBatch at hr
      split at hr
      next ms hms => exact ⟨ms, hms, Except.ok.inj hr⟩
      next => simp at hr
    have hlength := resolve_length schema.lookup i.cache.clock ms
    have htotal := accept_total (i.consulted device body) device
      (resolve schema.lookup i.cache.clock ms)
    have hreport := accept_report (i.consulted device body) device
      (resolve schema.lookup i.cache.clock ms)
    refine ⟨schema, _, ms, hfound, hr, hms, ?_, hreport, ?_, ?_, hpublisher⟩
    · rw [accept_records, hclock]
      rfl
    · simp only [hreport] at htotal ⊢
      omega
    · refine ⟨(Report.event device _).publication i.limits.topic, rfl, rfl,
        Event.announcedBy_publication _ _, ?_⟩
      rw [accept_published]
      rfl

def plantSchema : Schema :=
  (((Schema.new ⟨"pump", "1"⟩).withEntry ⟨1, "timestamp", "int64", ""⟩).withEntry
    ⟨2, "flow", "float32", "l/s"⟩).withEntry ⟨3, "heat", "float32", "K"⟩

def plant : Ingestor where
  cache := .new (.new ⟨Table.empty.insert ⟨"pump", "1"⟩ plantSchema⟩) .epoch (.ofSeconds 60)
  sink := Sink.empty.reject "heat"
  publisher := ⟨[], false⟩
  limits := ⟨1024, "telemetry"⟩
  metrics := none

def plantBatch : List UInt8 :=
  [10, 7, 8, 2, 21, 0, 0, 128, 65, 10, 4, 8, 1, 40, 1, 10, 7, 8, 3, 21, 0, 0, 128, 65, 10, 2, 8, 9,
    10, 2, 8, 2]

theorem ingest_accounts_plant : ∃ report after p,
    plant.ingest ⟨"p7", "pump", "1"⟩ plantBatch = (.ok report, after) ∧
      report.stored + report.storageFailures + report.skippedUnknown + report.skippedEmpty = 4 ∧
      after.publisher.published = [p] ∧
      (Json.parse p.payload).bind Event.ofJson? =
        some ⟨"p7", "pump", "1", 1, ⟨1000000, false, by decide, by decide⟩⟩ := by
  have hfound : (plant.cache.get ⟨"pump", "1"⟩).1 = .ok (some plantSchema) := rfl
  have hms : Measurement.decodeAll plantBatch = .ok [⟨2, some (.float32 ⟨0x41800000⟩)⟩,
      ⟨1, some (.int64 1)⟩, ⟨3, some (.float32 ⟨0x41800000⟩)⟩, ⟨9, none⟩, ⟨2, none⟩] := by cbv
  have h := ingest_of_decoded plant ⟨"p7", "pump", "1"⟩ (by decide) hfound hms
  obtain ⟨schema, r, ms, hfound', -, hms', -, -, htotal, ⟨p, -, -, hannounced, hpublished⟩, -⟩ :=
    ingest_accounts h
  obtain rfl : schema = plantSchema := by simpa [hfound] using hfound'.symm
  obtain rfl := Except.ok.inj (hms.symm.trans hms')
  refine ⟨_, _, p, h, ?_, hpublished, (hannounced.read (by decide)).trans (by decide)⟩
  have htimestamp : [(⟨2, some (.float32 ⟨0x41800000⟩)⟩ : Measurement), ⟨1, some (.int64 1)⟩,
      ⟨3, some (.float32 ⟨0x41800000⟩)⟩, ⟨9, none⟩, ⟨2, none⟩].countP
        (carriesTimestamp plantSchema.lookup) = 1 := by decide
  rw [htimestamp] at htotal
  exact Nat.succ.inj htotal

end Telemetry.Ingestor
