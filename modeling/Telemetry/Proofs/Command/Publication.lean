import Mathlib
import Telemetry.Proofs.Command.Agreement

namespace Telemetry

open Ingest Json Resolution Schema Time Wire

namespace Ingestor

variable {i i' : Ingestor} {lookup reading : Instant} {device : Device} {body : List UInt8}
  {report : Report}

lemma published_of_ingestAt (hworks : i.publisher.failing = false)
    (h : i.ingestAt lookup reading device body = (.ok report, i')) :
    i'.publisher.published =
      i.publisher.published ++ [(report.event device).publication i.limits.topic] := by
  obtain ⟨schema, ms, -, -, -, rfl, rfl⟩ := taken_of_ingestAt h
  have hstill : (i.consultedAt lookup reading device body).publisher.failing = false := hworks
  rw [accept_published, hstill, if_neg Bool.false_ne_true]
  rfl

lemma stored_of_ingestAt (h : i.ingestAt lookup reading device body = (.ok report, i')) :
    report.stored ≤ body.length := by
  obtain ⟨schema, ms, -, -, hms, rfl, -⟩ := taken_of_ingestAt h
  have htotal := accept_total (i.consultedAt lookup reading device body) device
    (resolve schema.lookup reading ms)
  have hsize := size_le_of_resolve hms schema.lookup reading
  omega

lemma timestamp_of_ingestAt (h : i.ingestAt lookup reading device body = (.ok report, i')) :
    ∃ schema ms,
      ((i.cache.setClock lookup).get ⟨device.app, device.version⟩).1 = .ok (some schema) ∧
      Measurement.decodeAll body = .ok ms ∧
      report.timestamp = (resolve schema.lookup reading ms).timestamp := by
  obtain ⟨schema, ms, -, hfound, hms, rfl, -⟩ := taken_of_ingestAt h
  exact ⟨schema, ms, hfound, hms, by rw [accept_report]⟩

end Ingestor

namespace Command

variable {files : Files} {config : Config} {origin : SchemaOrigin} {capture : Capture}
  {times : Moments} {device : String}

lemma load_ne_unreadableEvent (settings : Config.SchemaCache) (now : Instant) :
    origin.load files settings now ≠ .error .unreadableEvent := by
  intro h
  cases origin with
  | document path =>
    simp only [SchemaOrigin.load, loadDocument] at h
    split at h
    · cases h
    · split at h <;> cases h
  | directory identity =>
    simp only [SchemaOrigin.load, loadDirectory] at h
    split at h
    · cases h
    · split at h <;> cases h

lemma spelled_ne_unreadableEvent (path : String) (raw : List UInt8) :
    spelled path raw ≠ .error .unreadableEvent := by
  intro h
  unfold spelled at h
  split at h
  · cases h
  · generalize Text.Hex.decode _ = bytes at h
    cases bytes <;> cases h

lemma read_ne_unreadableEvent : capture.read files ≠ .error .unreadableEvent := by
  intro h
  unfold Capture.read at h
  split at h
  · cases h
  · split at h
    · exact spelled_ne_unreadableEvent _ _ h
    · cases h

lemma trial_of_taken (hmax : config.ingest.maxBodyBytes < 2 ^ 63) {schemas : Schemas}
    {payload : List UInt8} {report : Report} {after : Ingestor}
    (hload : origin.load files config.schemaCache times.loading = .ok schemas)
    (hread : capture.read files = .ok payload)
    (hingest : (trialIngestor config schemas.cache).ingestAt times.lookup times.reading
      ⟨device, schemas.identity.app, schemas.identity.version⟩ payload = (.ok report, after)) :
    ∃ t, capture.trial files config times origin device = .ok t ∧ t.report = report ∧
      t.events = [(config.ingest.topic,
        (report.event ⟨device, schemas.identity.app, schemas.identity.version⟩).readBack)] := by
  obtain ⟨-, -, hfits, -⟩ := Ingestor.taken_of_ingestAt hingest
  have hbody : payload.length ≤ config.ingest.maxBodyBytes := hfits
  have hcount : (report.event
      ⟨device, schemas.identity.app, schemas.identity.version⟩).count < 2 ^ 64 :=
    lt_of_le_of_lt (Ingestor.stored_of_ingestAt hingest) (by omega)
  have hevents : after.publisher.published.mapM readEvent = .ok [(config.ingest.topic,
      (report.event ⟨device, schemas.identity.app, schemas.identity.version⟩).readBack)] := by
    rw [Ingestor.published_of_ingestAt rfl hingest]
    simp only [trialIngestor, List.nil_append, List.mapM_cons, readEvent_publication hcount]
    rfl
  exact ⟨_, trial_of_ingest hload hread hingest hevents, rfl, rfl⟩

lemma bind_eq_error_iff {ε α β : Type} {x : Except ε α} {f : α → Except ε β} {e : ε} :
    x.bind f = .error e ↔ x = .error e ∨ ∃ a, x = .ok a ∧ f a = .error e := by
  cases x <;> simp [Except.bind]

lemma trial_ne_unreadableEvent (hmax : config.ingest.maxBodyBytes < 2 ^ 63) :
    capture.trial files config times origin device ≠ .error .unreadableEvent := by
  intro h
  obtain hload | ⟨schemas, hload, hrest⟩ := bind_eq_error_iff.mp h
  · exact load_ne_unreadableEvent _ _ hload
  obtain hread | ⟨payload, hread, hrest⟩ := bind_eq_error_iff.mp hrest
  · exact read_ne_unreadableEvent hread
  dsimp only at hrest
  split at hrest
  next => cases hrest
  next report after hingest =>
    obtain ⟨t, ht, -⟩ := trial_of_taken hmax hload hread hingest
    rw [h] at ht
    cases ht

/-- A batch that is taken while the publisher works is announced by one event. Its publication is
read as that event, whatever the device is called, and the time in it is that of the batch: the
milliseconds that its measurements tell, wherever they lie among the years there are, or else the
time of the clock to the nanosecond. Only a clock within a leap second that does not end a minute is
read as one second later. So the tool reads back every event of a batch that it takes in on trial.
The count is a machine word, which no body in memory can exceed. -/
theorem published_readable :
    (∀ (i i' : Ingestor) (device : Device) (body : List UInt8) (report : Report),
      body.length < 2 ^ 64 → i.publisher.failing = false →
      i.ingest device body = (.ok report, i') →
      ∃ (schema : Schema) (ms : List Measurement) (p : Publication) (e : Event),
        (i.cache.get ⟨device.app, device.version⟩).1 = .ok (some schema) ∧
        Measurement.decodeAll body = .ok ms ∧
        i'.publisher.published = i.publisher.published ++ [p] ∧ p.topic = i.limits.topic ∧
        e = ⟨device.id, device.app, device.version, report.stored, report.timestamp⟩ ∧
        (e.timestamp.Regular → (parse p.payload).bind Event.ofJson? = some e) ∧
        (¬ e.timestamp.Regular → ∃ later, later.leap = false ∧
          later.nanos = e.timestamp.nanos + nanosPerSecond ∧
          (parse p.payload).bind Event.ofJson? = some { e with timestamp := later }) ∧
        (∀ millis, Dated schema.lookup ms millis →
          e.timestamp.Regular ∧ e.timestamp.nanos = millis * nanosPerMilli) ∧
        ((¬ ∃ millis, Dated schema.lookup ms millis) → e.timestamp = i.cache.clock)) ∧
    ∀ (invocation : Invocation) (files : Files) (environment : Option (List UInt8))
      (config : Config), invocation.settings files environment = .ok config →
      ∀ (capture : Capture) (origin : SchemaOrigin) (device : String) (times : Moments),
        (Command.ingest capture origin device).run files config times ≠ .error .unreadableEvent ∧
        ∀ (schemas : Schemas) (payload : List UInt8) (report : Report) (after : Ingestor),
          origin.load files config.schemaCache times.loading = .ok schemas →
          capture.read files = .ok payload →
          (trialIngestor config schemas.cache).ingestAt times.lookup times.reading
            ⟨device, schemas.identity.app, schemas.identity.version⟩ payload =
              (.ok report, after) →
          ∃ t, capture.trial files config times origin device = .ok t ∧ t.report = report ∧
            t.events = [(config.ingest.topic, ⟨device, schemas.identity.app,
              schemas.identity.version, report.stored, report.timestamp.readBack⟩)] := by
  constructor
  · intro i i' device body report hbody hworks h
    rw [← Ingestor.ingestAt_clock] at h
    obtain ⟨schema, ms, hfound, hms, htimestamp⟩ := Ingestor.timestamp_of_ingestAt h
    have hcount : (report.event device).count < 2 ^ 64 :=
      lt_of_le_of_lt (Ingestor.stored_of_ingestAt h) hbody
    have hread := ((report.event device).announcedBy_publication i.limits.topic).read hcount
    refine ⟨schema, ms, _, report.event device, hfound, hms,
      Ingestor.published_of_ingestAt hworks h, rfl, rfl, fun hregular => ?_, fun hirregular => ?_,
      fun millis hdated => ?_, fun hundated => ?_⟩
    · rw [hread, Event.readBack, Instant.readBack_of_regular hregular]
    · obtain ⟨hsettled, hlater⟩ := Instant.readBack_of_not_regular hirregular
      exact ⟨_, hsettled, hlater, hread⟩
    · rw [Report.event, htimestamp]
      obtain ⟨hsource, hnanos⟩ := resolve_of_dated hdated i.cache.clock
      exact ⟨(timestamp_of_payload hsource).1, hnanos⟩
    · rw [Report.event, htimestamp]
      exact (resolve_of_not_dated hundated _).2
  · intro invocation files environment config hconfig capture origin device times
    have hmax := invocation.maxBodyBytes_settings hconfig
    refine ⟨fun h => ?_, fun schemas payload report after => trial_of_taken hmax⟩
    cases ht : capture.trial files config times origin device with
    | error e =>
      rw [run, Capture.ingest, ht] at h
      obtain rfl := Except.error.inj h
      exact trial_ne_unreadableEvent hmax ht
    | ok t =>
      rw [run, Capture.ingest, ht] at h
      cases h

def dawnBatch : List UInt8 :=
  [10, 7, 8, 2, 21, 0, 0, 128, 65, 10, 13, 8, 1, 40, 128, 224, 166, 243, 150, 247, 152, 241, 255, 1]

theorem published_readable_dawn :
    (∃ report after p e,
      Ingestor.plant.ingest ⟨"p7 ü", "pump", "1"⟩ dawnBatch = (.ok report, after) ∧
        after.publisher.published = [p] ∧ (parse p.payload).bind Event.ofJson? = some e ∧
        e.device = "p7 ü" ∧ e.timestamp.nanos = -8334601228800000 * nanosPerMilli) ∧
    ∃ t, Capture.trial ⟨"p", false⟩ (meterFiles meterPayload) meterConfig ⟨.epoch, .last, .last⟩
        (.document "s") "m1" = .ok t ∧
      t.events.map Prod.fst = ["telemetry-events"] := by
  obtain ⟨hingested, htool⟩ := published_readable
  constructor
  · have hfound : (Ingestor.plant.cache.get ⟨"pump", "1"⟩).1 = .ok (some Ingestor.plantSchema) :=
      rfl
    have hms : Measurement.decodeAll dawnBatch =
        .ok ([⟨2, some (.float32 ⟨0x41800000⟩)⟩] ++
          ⟨1, some (.int64 (-8334601228800000))⟩ :: []) := by cbv
    have h := Ingestor.ingest_of_decoded Ingestor.plant ⟨"p7 ü", "pump", "1"⟩ (by decide) hfound hms
    obtain ⟨schema, ms, p, e, hfound', hms', hpublished, -, rfl, hreads, -, hdated, -⟩ :=
      hingested _ _ _ _ _ (by decide) rfl h
    obtain rfl := Option.some.inj (Except.ok.inj (hfound.symm.trans hfound'))
    obtain rfl := Except.ok.inj (hms.symm.trans hms')
    obtain ⟨hregular, hnanos⟩ := hdated _
      (.intro rfl (by decide) (by decide) rfl (.int64 _) (by decide) (by decide))
    exact ⟨_, _, p, _, h, hpublished, hreads hregular, rfl, hnanos⟩
  · obtain ⟨cache, hload, hget⟩ := gives_meterFiles meterPayload .epoch
    have hfits : meterPayload.length ≤ meterConfig.ingest.maxBodyBytes := by decide
    have h := Ingestor.ingestAt_of_decoded (trialIngestor meterConfig cache) .last .last
      ⟨"m1", "meter", "1"⟩ hfits (hget .last) decodeAll_meterPayload
    have hconfig := settings_meterFiles meterPayload
      (.ingest ⟨"p", false⟩ (.document "s") "m1")
    obtain ⟨-, htrial⟩ := htool _ _ _ _ hconfig ⟨"p", false⟩ (.document "s") "m1"
      ⟨.epoch, .last, .last⟩
    obtain ⟨t, ht, -, hevents⟩ := htrial _ _ _ _ hload (read_meterFiles _) h
    exact ⟨t, ht, by rw [hevents]; rfl⟩

/-- The clock is within a leap second, and its time is read as that of the second behind. -/
theorem published_later : ∃ report after p e,
    (Ingestor.plant.setClock .leapingNoon).ingest ⟨"p7", "pump", "1"⟩
        [10, 7, 8, 2, 21, 0, 0, 128, 65] = (.ok report, after) ∧
      report.timestamp = .leapingNoon ∧ after.publisher.published = [p] ∧
      (parse p.payload).bind Event.ofJson? = some e ∧
      e.timestamp = ⟨45271500000000, false, by decide, by decide⟩ := by
  have hfound : ((Ingestor.plant.setClock .leapingNoon).cache.get ⟨"pump", "1"⟩).1 =
      .ok (some Ingestor.plantSchema) := rfl
  have hms : Measurement.decodeAll [10, 7, 8, 2, 21, 0, 0, 128, 65] =
      .ok [⟨2, some (.float32 ⟨0x41800000⟩)⟩] := by cbv
  have h := Ingestor.ingest_of_decoded (Ingestor.plant.setClock .leapingNoon) ⟨"p7", "pump", "1"⟩
    (by decide) hfound hms
  rw [← Ingestor.ingestAt_clock] at h
  have hpublished := Ingestor.published_of_ingestAt rfl h
  rw [Ingestor.ingestAt_clock] at h
  exact ⟨_, _, _, _, h, rfl, hpublished,
    (Event.announcedBy_publication _ _).read (by decide), by decide⟩

end Command

end Telemetry
