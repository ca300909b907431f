import Mathlib
import Telemetry.Proofs.Command.Printed
import Telemetry.Proofs.Config.Range
import Telemetry.Proofs.Ingest.Accounting
import Telemetry.Proofs.Resolution.Size
import Telemetry.Proofs.Text.Utf8

/-! Decoding a capture and taking it in on trial come to the same: both find the same schema, and
both give the same meaning to the bytes. -/

namespace Telemetry

open Ingest Resolution Schema Time Wire

namespace Command

section Load

variable (files : Files) (settings : Config.SchemaCache)

def SchemaOrigin.Gives (origin : SchemaOrigin) (identity : Identity) (found : Option Schema) :
    Prop :=
  ∀ now, ∃ cache, origin.load files settings now = .ok ⟨cache, identity⟩ ∧
    ∀ t, ((cache.setClock t).get identity).1 = .ok found

variable {files settings} in
lemma gives_of_document {path : String} {schema : Schema}
    (hfile : Schema.ofFile files path = .ok schema) (hdefect : schema.defect? = none) :
    (SchemaOrigin.document path).Gives files settings schema.identity (some schema) := by
  intro now
  rcases hs : (Cache.new (.new .empty) now settings.ttl).save schema with ⟨r, c⟩
  obtain rfl := Cache.save_answer rfl hs
  rw [hdefect] at hs
  refine ⟨c, ?_, Cache.get_of_save hs⟩
  simp only [SchemaOrigin.load, loadDocument, hfile, hs]

lemma loadDocument_cases (path : String) :
    (∃ e, ∀ now, loadDocument files settings.ttl now path = .error e) ∨
      ∃ identity found, (SchemaOrigin.document path).Gives files settings identity found := by
  cases hfile : Schema.ofFile files path with
  | error e => exact .inl ⟨_, fun _ => by rw [loadDocument, hfile]⟩
  | ok schema =>
    cases hdefect : schema.defect? with
    | some e =>
      refine .inl ⟨.schema e, fun now => ?_⟩
      rcases hs : (Cache.new (.new .empty) now settings.ttl).save schema with ⟨r, c⟩
      obtain rfl := Cache.save_answer rfl hs
      rw [hdefect] at hs
      simp only [loadDocument, hfile, hs]
    | none => exact .inr ⟨_, _, gives_of_document hfile hdefect⟩

lemma loadDirectory_cases (identity : Identity) :
    (∃ e, ∀ now, loadDirectory files settings now identity = .error e) ∨
      ∃ found, (SchemaOrigin.directory identity).Gives files settings identity found := by
  cases hdirectory : settings.directory with
  | none => exact .inl ⟨_, fun _ => by rw [loadDirectory, hdirectory]⟩
  | some path =>
    cases hstore : Store.ofDirectory files path with
    | error e =>
      exact .inl ⟨.badDirectory path e, fun _ => by simp only [loadDirectory, hdirectory, hstore]⟩
    | ok store =>
      refine .inr ⟨store.get? identity, fun now => ?_⟩
      refine ⟨.new (.new store) now settings.ttl, ?_, fun t => ?_⟩
      · simp only [SchemaOrigin.load, loadDirectory, hdirectory, hstore]
      · exact Cache.get_of_agrees rfl fun h hh => nomatch hh

lemma load_cases (origin : SchemaOrigin) :
    (∃ e, ∀ now, origin.load files settings now = .error e) ∨
      ∃ identity found, origin.Gives files settings identity found := by
  cases origin with
  | document path => exact loadDocument_cases files settings path
  | directory identity =>
    obtain h | h := loadDirectory_cases files settings identity
    · exact .inl h
    · exact .inr ⟨identity, h⟩

end Load

lemma bind_eq_ok_iff {ε α β : Type} {x : Except ε α} {f : α → Except ε β} {b : β} :
    x.bind f = .ok b ↔ ∃ a, x = .ok a ∧ f a = .ok b := by
  cases x <;> simp [Except.bind]

lemma map_eq_ok_iff {ε α β : Type} {x : Except ε α} {f : α → β} {b : β} :
    x.map f = .ok b ↔ ∃ a, x = .ok a ∧ f a = b := by
  cases x <;> simp [Except.map]

section Outcome

variable {files : Files} {config : Config} {origin : SchemaOrigin} {identity : Identity}
  {found : Option Schema} {schema : Schema} {capture : Capture} {times : Moments}

lemma schema_eq_ok_iff {cache : Cache} {t : Instant}
    (hget : ((cache.setClock t).get identity).1 = .ok found) :
    (Schemas.mk cache identity).schema t = .ok schema ↔ found = some schema := by
  rw [Schemas.schema, hget]
  cases found <;> simp

def Capture.Holds (capture : Capture) (files : Files) (found : Option Schema) (schema : Schema)
    (payload : List UInt8) (ms : List Measurement) : Prop :=
  found = some schema ∧ capture.read files = .ok payload ∧ Measurement.decodeAll payload = .ok ms

lemma resolve_eq_ok_iff (hgives : origin.Gives files config.schemaCache identity found)
    {r : Resolved} : capture.resolve files config times origin = .ok (schema, r) ↔
      ∃ payload ms, capture.Holds files found schema payload ms ∧
        r = resolve schema.lookup times.reading ms := by
  obtain ⟨cache, hload, hget⟩ := hgives times.loading
  constructor
  · intro h
    obtain ⟨schemas, hs, h⟩ := bind_eq_ok_iff.mp h
    obtain rfl := Except.ok.inj (hload.symm.trans hs)
    obtain ⟨schema', hschema, h⟩ := bind_eq_ok_iff.mp h
    obtain ⟨payload, hread, h⟩ := bind_eq_ok_iff.mp h
    split at h
    next => cases h
    next resolved hresolved =>
      obtain ⟨rfl, rfl⟩ := Prod.mk.inj (Except.ok.inj h)
      obtain ⟨ms, hms, hr⟩ := (resolveBatch_eq_ok_iff _ _ _ _).mp hresolved
      exact ⟨payload, ms, ⟨(schema_eq_ok_iff (hget _)).mp hschema, hread, hms⟩, hr⟩
  · rintro ⟨payload, ms, ⟨hfound, hread, hms⟩, rfl⟩
    refine bind_eq_ok_iff.mpr ⟨_, hload, bind_eq_ok_iff.mpr ⟨schema, ?_, ?_⟩⟩
    · exact (schema_eq_ok_iff (hget _)).mpr hfound
    · refine bind_eq_ok_iff.mpr ⟨payload, hread, ?_⟩
      simp only [resolveBatch, hms]

lemma readEvent_publication {e : Event} (hcount : e.count < 2 ^ 64) (topic : String) :
    readEvent (e.publication topic) = .ok (topic, e.readBack) := by
  simp only [readEvent, (e.announcedBy_publication topic).read hcount]
  rfl

lemma holds_of_trial (hgives : origin.Gives files config.schemaCache identity found)
    {device : String} {t : Trial} (h : capture.trial files config times origin device = .ok t) :
    ∃ schema payload ms, capture.Holds files found schema payload ms := by
  obtain ⟨cache, hload, hget⟩ := hgives times.loading
  obtain ⟨schemas, hs, h⟩ := bind_eq_ok_iff.mp h
  obtain rfl := Except.ok.inj (hload.symm.trans hs)
  obtain ⟨payload, hread, h⟩ := bind_eq_ok_iff.mp h
  dsimp only at h
  split at h
  next => cases h
  next report i hingest =>
    obtain ⟨schema, ms, -, hfound, hms, -⟩ := Ingestor.taken_of_ingestAt hingest
    exact ⟨schema, payload, ms, Except.ok.inj ((hget _).symm.trans hfound), hread, hms⟩

structure Trial.Tells (t : Trial) (topic : String) (device : Device) (now : Instant)
    (r : Resolved) : Prop where
  report : t.report = ⟨r.readings.length, r.skippedCount .unknownId,
    r.skippedCount .missingValue, 0, r.timestamp⟩
  records : t.records = Ingestor.records device now r
  events : t.events = [(topic, (t.report.event device).readBack)]

lemma tells_of_accept {i : Ingestor} (hsink : i.sink = .empty)
    (hpublisher : i.publisher = ⟨[], false⟩) (device : Device) {r : Resolved}
    (hcount : r.readings.length < 2 ^ 64) :
    ∃ events, (i.accept device r).2.publisher.published.mapM readEvent = .ok events ∧
      ∀ metrics, (Trial.mk (i.accept device r).1 (i.accept device r).2.sink.records events
        metrics).Tells i.limits.topic device i.cache.clock r := by
  have hreport : (i.accept device r).1 = ⟨r.readings.length, r.skippedCount .unknownId,
      r.skippedCount .missingValue, 0, r.timestamp⟩ := by
    simp [Ingestor.accept_report, hsink, Sink.empty]
  have hrecords : (i.accept device r).2.sink.records = Ingestor.records device i.cache.clock r := by
    rw [Ingestor.accept_records, hsink]
    simp [Sink.empty, Sink.records, Ingestor.records]
  have hpublished : (i.accept device r).2.publisher.published =
      [((i.accept device r).1.event device).publication i.limits.topic] := by
    rw [Ingestor.accept_published, hpublisher]
    rfl
  have hevent : ((i.accept device r).1.event device).count < 2 ^ 64 := by
    rw [hreport]
    exact hcount
  have hread : (i.accept device r).2.publisher.published.mapM readEvent =
      .ok [(i.limits.topic, ((i.accept device r).1.event device).readBack)] := by
    rw [hpublished, List.mapM_cons, readEvent_publication hevent]
    rfl
  exact ⟨_, hread, fun metrics => ⟨hreport, hrecords, rfl⟩⟩

lemma trial_of_ingest {schemas : Schemas} {payload : List UInt8} {device : String}
    {report : Report} {i : Ingestor} {events : List (String × Event)}
    (hload : origin.load files config.schemaCache times.loading = .ok schemas)
    (hread : capture.read files = .ok payload)
    (hingest : (trialIngestor config schemas.cache).ingestAt times.lookup times.reading
      ⟨device, schemas.identity.app, schemas.identity.version⟩ payload = (.ok report, i))
    (hevents : i.publisher.published.mapM readEvent = .ok events) :
    capture.trial files config times origin device =
      .ok ⟨report, i.sink.records, events, i.metrics⟩ := by
  refine bind_eq_ok_iff.mpr ⟨schemas, hload, bind_eq_ok_iff.mpr ⟨payload, hread, ?_⟩⟩
  dsimp only
  rw [hingest]
  exact bind_eq_ok_iff.mpr ⟨events, hevents, rfl⟩

lemma trial_of_holds (hgives : origin.Gives files config.schemaCache identity found)
    {payload : List UInt8} {ms : List Measurement}
    (h : capture.Holds files found schema payload ms)
    (hfits : payload.length ≤ config.ingest.maxBodyBytes)
    (hmax : config.ingest.maxBodyBytes < 2 ^ 63) (times : Moments) (device : String) :
    ∃ t, capture.trial files config times origin device = .ok t ∧
      t.Tells config.ingest.topic ⟨device, identity.app, identity.version⟩ times.reading
        (resolve schema.lookup times.reading ms) := by
  obtain ⟨cache, hload, hget⟩ := hgives times.loading
  obtain ⟨rfl, hread, hms⟩ := h
  have hcount : (resolve schema.lookup times.reading ms).readings.length < 2 ^ 64 := by
    have hsize := size_le_of_resolve hms schema.lookup times.reading
    omega
  have hingest := Ingestor.ingestAt_of_decoded (trialIngestor config cache) times.lookup
    times.reading ⟨device, identity.app, identity.version⟩ hfits (hget _) hms
  obtain ⟨events, hevents, htells⟩ := tells_of_accept
    (i := (trialIngestor config cache).consultedAt times.lookup times.reading
      ⟨device, identity.app, identity.version⟩ payload) rfl rfl
    ⟨device, identity.app, identity.version⟩ hcount
  exact ⟨_, trial_of_ingest hload hread hingest hevents, htells _⟩

end Outcome

section Print

variable {t : Trial} {topic : String} {device : Device} {now : Instant} {lookup : Lookup}
  {payload : List UInt8} {ms : List Measurement}

lemma Trial.Tells.printedAs (h : t.Tells topic device now (resolve lookup now ms))
    (hms : Measurement.decodeAll payload = .ok ms) (hsize : payload.length < 2 ^ 63) :
    t.PrintedAs t.toJson.sorted := by
  have hlength := size_le_of_resolve hms lookup now
  have hskipped := skippedCount_total (resolve lookup now ms)
  have hreport : t.report.Fits := by
    rw [h.report]
    constructor <;> dsimp only <;> omega
  refine Trial.printedAs_sorted hreport fun e he => ?_
  rw [h.events, List.mem_singleton] at he
  exact he ▸ hreport.stored

variable {files : Files} {config : Config} {origin : SchemaOrigin} {identity : Identity}
  {found : Option Schema} {schema : Schema} {capture : Capture}

lemma printed_of_holds (hgives : origin.Gives files config.schemaCache identity found)
    (h : capture.Holds files found schema payload ms)
    (hfits : payload.length ≤ config.ingest.maxBodyBytes)
    (hmax : config.ingest.maxBodyBytes < 2 ^ 63) (times : Moments) (device : String) :
    ∃ t printed document, capture.trial files config times origin device = .ok t ∧
      t.Tells config.ingest.topic ⟨device, identity.app, identity.version⟩ times.reading
        (resolve schema.lookup times.reading ms) ∧
      (Command.ingest capture origin device).run files config times = .ok (printed ++ "\n") ∧
      Json.parse printed = some document ∧ t.PrintedAs document := by
  obtain ⟨t, ht, htells⟩ := trial_of_holds hgives h hfits hmax times device
  exact ⟨t, _, _, ht, htells, map_eq_ok_iff.mpr ⟨t, ht, rfl⟩, t.parse_pretty_sorted,
    htells.printedAs h.2.2 (by omega)⟩

end Print

section Agreement

structure Trial.Agrees (t : Trial) (topic : String) (r : Resolved) : Prop where
  records : t.records.map (fun x => (x.kind, x.value, x.unit)) =
    r.readings.map fun x => (x.name, x.value, x.unit)
  failures : t.report.storageFailures = 0
  stored : t.report.stored = r.readings.length
  unknown : t.report.skippedUnknown = r.skippedCount .unknownId
  empty : t.report.skippedEmpty = r.skippedCount .missingValue
  event : ∃ event, t.events = [(topic, event)] ∧ event.count = t.report.stored ∧
    (r.source = .payload → event.timestamp = r.timestamp)
  time : r.source = .payload → r.timestamp.readBack = r.timestamp ∧
    t.report.timestamp = r.timestamp ∧ ∀ x ∈ t.records, x.timestamp = r.timestamp

lemma timestamp_of_payload {lookup : Lookup} {now : Instant} {ms : List Measurement}
    (h : (resolve lookup now ms).source = .payload) :
    (resolve lookup now ms).timestamp.Regular ∧ ∀ now',
      (resolve lookup now' ms).timestamp = (resolve lookup now ms).timestamp := by
  simp only [resolve] at h ⊢
  cases ht : timestamp? lookup ms with
  | none => simp [ht] at h
  | some t =>
    obtain ⟨m, -, hm⟩ := Option.bind_eq_some_iff.mp ht
    obtain ⟨millis, -, hmillis⟩ := Option.bind_eq_some_iff.mp hm
    exact ⟨Instant.regular_of_ofMillis? hmillis, fun _ => rfl⟩

lemma Trial.Tells.agrees {t : Trial} {topic : String} {device : Device} {now' : Instant}
    {lookup : Lookup} {ms : List Measurement}
    (h : t.Tells topic device now' (resolve lookup now' ms)) (now : Instant) :
    t.Agrees topic (resolve lookup now ms) where
  records := by
    rw [h.records, Ingestor.records, List.map_map]
    rfl
  failures := by rw [h.report]
  stored := by
    rw [h.report]
    rfl
  unknown := by
    rw [h.report]
    rfl
  empty := by
    rw [h.report]
    rfl
  event := by
    refine ⟨_, h.events, rfl, fun hsource => ?_⟩
    obtain ⟨hregular, hsame⟩ := timestamp_of_payload hsource
    have htime : (t.report.event device).timestamp = (resolve lookup now ms).timestamp := by
      rw [h.report]
      exact hsame now'
    rw [Event.readBack, htime, Instant.readBack_of_regular hregular]
  time hsource := by
    obtain ⟨hregular, hsame⟩ := timestamp_of_payload hsource
    rw [h.report, h.records, Ingestor.records]
    refine ⟨Instant.readBack_of_regular hregular, hsame now', fun x hx => ?_⟩
    obtain ⟨reading, -, rfl⟩ := List.mem_map.mp hx
    exact hsame now'

variable {files : Files} {config : Config} {origin : SchemaOrigin} {times : Moments}

lemma load_of_decode {capture : Capture} {format : OutputFormat} {text : String}
    (h : (Command.decode capture origin format).run files config times = .ok text) :
    ∃ schemas, origin.load files config.schemaCache times.loading = .ok schemas := by
  obtain ⟨_, hr, -⟩ := map_eq_ok_iff.mp h
  obtain ⟨schemas, hload, -⟩ := bind_eq_ok_iff.mp hr
  exact ⟨schemas, hload⟩

lemma load_of_ingest {capture : Capture} {device : String} {text : String}
    (h : (Command.ingest capture origin device).run files config times = .ok text) :
    ∃ schemas, origin.load files config.schemaCache times.loading = .ok schemas := by
  obtain ⟨_, ht, -⟩ := map_eq_ok_iff.mp h
  obtain ⟨schemas, hload, -⟩ := bind_eq_ok_iff.mp ht
  exact ⟨schemas, hload⟩

/-- Decoding a capture succeeds if and only if taking it in on trial does, each at its own times,
and then they agree, up to the document that is printed. Neither the way in which the schema is
found nor the time to live makes a difference, though the entry may be due before it is looked up:
the cache serves what the store holds. -/
theorem decode_agrees_ingest {i : Invocation} {environment : Option (List UInt8)}
    (hconfig : i.settings files environment = .ok config) {capture : Capture}
    (hfits : ∀ payload, capture.read files = .ok payload →
      payload.length ≤ config.ingest.maxBodyBytes)
    (origin : SchemaOrigin) (format : OutputFormat) (device : String) (times times' : Moments) :
    ((∃ text, (Command.decode capture origin format).run files config times = .ok text) ↔
      ∃ text, (Command.ingest capture origin device).run files config times' = .ok text) ∧
    ∀ text, (Command.decode capture origin format).run files config times = .ok text →
      ∃ (schema : Schema) (r : Resolved) (t : Trial) (printed : String) (document : Json.Value),
        capture.resolve files config times origin = .ok (schema, r) ∧
        text = format.render schema.identity r ++ "\n" ∧
        (Command.ingest capture origin device).run files config times' = .ok (printed ++ "\n") ∧
        Json.parse printed = some document ∧ t.PrintedAs document ∧
        t.Agrees config.ingest.topic r := by
  have hmax := i.maxBodyBytes_settings hconfig
  obtain ⟨e, he⟩ | ⟨identity, found, hgives⟩ := load_cases files config.schemaCache origin
  · have hdecode : ∀ text,
        (Command.decode capture origin format).run files config times ≠ .ok text := by
      intro text h
      obtain ⟨schemas, hload⟩ := load_of_decode h
      cases (he _).symm.trans hload
    have hingest : ∀ text,
        (Command.ingest capture origin device).run files config times' ≠ .ok text := by
      intro text h
      obtain ⟨schemas, hload⟩ := load_of_ingest h
      cases (he _).symm.trans hload
    exact ⟨⟨fun ⟨text, h⟩ => absurd h (hdecode text), fun ⟨text, h⟩ => absurd h (hingest text)⟩,
      fun text h => absurd h (hdecode text)⟩
  · refine ⟨⟨?_, ?_⟩, ?_⟩
    · rintro ⟨text, h⟩
      obtain ⟨⟨schema, r⟩, hr, -⟩ := map_eq_ok_iff.mp h
      obtain ⟨payload, ms, hholds, -⟩ := (resolve_eq_ok_iff hgives).mp hr
      obtain ⟨_, _, _, -, -, hrun, -⟩ :=
        printed_of_holds hgives hholds (hfits _ hholds.2.1) hmax times' device
      exact ⟨_, hrun⟩
    · rintro ⟨text, h⟩
      obtain ⟨t, ht, -⟩ := map_eq_ok_iff.mp h
      obtain ⟨schema, payload, ms, hholds⟩ := holds_of_trial hgives ht
      have hr : capture.resolve files config times origin =
          .ok (schema, resolve schema.lookup times.reading ms) :=
        (resolve_eq_ok_iff hgives).mpr ⟨payload, ms, hholds, rfl⟩
      exact ⟨_, map_eq_ok_iff.mpr ⟨_, hr, rfl⟩⟩
    · intro text h
      obtain ⟨⟨schema, r⟩, hr, htext⟩ := map_eq_ok_iff.mp h
      obtain ⟨payload, ms, hholds, rfl⟩ := (resolve_eq_ok_iff hgives).mp hr
      obtain ⟨t, printed, document, -, htells, hrun, hparse, hprinted⟩ :=
        printed_of_holds hgives hholds (hfits _ hholds.2.1) hmax times' device
      exact ⟨schema, _, t, printed, document, hr, htext.symm, hrun, hparse, hprinted,
        htells.agrees _⟩

def meterSchema : Schema :=
  ((Schema.new ⟨"meter", "1"⟩).withEntry ⟨1, "timestamp", "int64", ""⟩).withEntry
    ⟨2, "flow", "float32", "l/s"⟩

def meterPayload : List UInt8 :=
  [10, 7, 8, 2, 21, 0, 0, 128, 65, 10, 5, 8, 1, 40, 232, 7, 10, 2, 8, 9]

def meterMeasurements : List Measurement :=
  [⟨2, some (.float32 ⟨0x41800000⟩)⟩, ⟨1, some (.int64 1000)⟩, ⟨9, none⟩]

lemma decodeAll_meterPayload : Measurement.decodeAll meterPayload = .ok meterMeasurements := by
  cbv

def meterSettings : String := "[ingest]\nmax_body_bytes = 64"

def meterConfig : Config := { Config.default with ingest := ⟨64, "telemetry-events"⟩ }

def meterFiles (payload : List UInt8) : Files where
  here := []
  entries := [(["c"], .file (Text.Utf8.encode meterSettings)),
    (["s"], .file (Text.Utf8.encode meterSchema.toJson.render)), (["p"], .file payload)]

section Meter

variable {payload : List UInt8}

lemma read?_meterFiles {name : String} {bytes : List UInt8} (hnames : Files.names name = [name])
    (habsolute : Files.isAbsolute name = false)
    (hname : name ≠ "" ∧ name ≠ "." ∧ name ≠ "..")
    (hnode : (meterFiles payload).nodeAt? [name] = some (.file bytes)) :
    (meterFiles payload).read? name = some bytes := by
  have hroot : (meterFiles payload).nodeAt? [] = some .directory := rfl
  have hhere : (meterFiles payload).here = [] := rfl
  have henter : Files.enter [] name = [name] := by simp [Files.enter, hname]
  have hplace : (meterFiles payload).place? name = some [name] := by
    rw [Files.place?, if_neg hname.1, habsolute, hnames]
    simp [hhere, Files.walk, hroot, henter, hnode, Node.isDirectory]
  rw [Files.read?, Files.node?, hplace, Option.bind_some, hnode]

lemma readText?_meterFiles {name text : String} (hnames : Files.names name = [name])
    (habsolute : Files.isAbsolute name = false)
    (hname : name ≠ "" ∧ name ≠ "." ∧ name ≠ "..")
    (hnode : (meterFiles payload).nodeAt? [name] = some (.file (Text.Utf8.encode text))) :
    (meterFiles payload).readText? name = some text := by
  rw [Files.readText?, read?_meterFiles hnames habsolute hname hnode, Option.bind_some,
    Text.Utf8.decode_encode]
  rfl

lemma settings_meterFiles (payload : List UInt8) (command : Command) :
    (Invocation.mk (some "c") command).settings (meterFiles payload) none = .ok meterConfig := by
  have htext : (meterFiles payload).readText? "c" = some meterSettings :=
    readText?_meterFiles (by cbv) (by cbv) (by decide) rfl
  have hparse : Toml.parse meterSettings =
      some [("ingest", .table .header [("max_body_bytes", .integer 64)])] := by cbv
  have hshape : Config.ofToml? (.table .header [("ingest", .table .header
      [("max_body_bytes", .integer 64)])]) = some meterConfig := rfl
  have htopic : Text.isBlankText "telemetry-events" = false := by cbv
  have hdefect : meterConfig.defect? (meterFiles payload) = none := by
    simp [Config.defect?, meterConfig, Config.default, Config.SchemaCache.default, htopic,
      Span.ofSeconds]
  have hconfig : Config.ofText (meterFiles payload) meterSettings = .ok meterConfig := by
    simp only [Config.ofText, hparse, Option.bind_some, hshape, hdefect]
  simp only [Invocation.settings, Config.ofFile, htext, hconfig]
  rfl

lemma ofFile_meterFiles : Schema.ofFile (meterFiles payload) "s" = .ok meterSchema := by
  have htext : (meterFiles payload).readText? "s" = some meterSchema.toJson.render :=
    readText?_meterFiles (by cbv) (by cbv) (by decide) rfl
  have hlegal : meterSchema.toJson.Legal :=
    ⟨trivial, trivial, ⟨⟨Number.Numeral.legal_ofInt 1, trivial, trivial, trivial, trivial⟩,
      ⟨Number.Numeral.legal_ofInt 2, trivial, trivial, trivial, trivial⟩, trivial⟩, trivial⟩
  have hshape : Schema.ofJson? meterSchema.toJson = some meterSchema := rfl
  have hnames : meterSchema.fillNames = meterSchema := rfl
  have hdefect : meterSchema.defect? = none := rfl
  simp only [Schema.ofFile, htext]
  rw [Schema.ofText, Json.parse_render hlegal, Option.bind_some, hshape]
  simp only [hnames, hdefect]

lemma read_meterFiles (payload : List UInt8) :
    Capture.read (meterFiles payload) ⟨"p", false⟩ = .ok payload := by
  rw [Capture.read, read?_meterFiles (by cbv) (by cbv) (by decide) rfl]
  rfl

lemma gives_meterFiles (payload : List UInt8) : (SchemaOrigin.document "s").Gives
    (meterFiles payload) meterConfig.schemaCache meterSchema.identity (some meterSchema) :=
  gives_of_document ofFile_meterFiles rfl

end Meter

theorem decode_agrees_ingest_meter :
    ∃ (schemas : Schemas) (r : Resolved) (printed : String) (document : Json.Value) (t : Trial),
      (SchemaOrigin.document "s").load (meterFiles meterPayload) meterConfig.schemaCache .epoch =
        .ok schemas ∧
      (schemas.cache.setClock .last).fresh? schemas.identity = none ∧
      Capture.resolve ⟨"p", false⟩ (meterFiles meterPayload) meterConfig ⟨.epoch, .last, .last⟩
        (.document "s") = .ok (meterSchema, r) ∧
      (Command.ingest ⟨"p", false⟩ (.document "s") "m1").run (meterFiles meterPayload) meterConfig
        ⟨.epoch, .last, .last⟩ = .ok (printed ++ "\n") ∧
      Json.parse printed = some document ∧ t.PrintedAs document ∧
      t.records.map (fun x => (x.kind, x.value, x.unit)) =
        [("flow", ⟨0x4030000000000000⟩, "l/s")] ∧
      t.report.stored = 1 ∧ t.report.skippedUnknown = 1 ∧ t.report.timestamp = r.timestamp := by
  have hfits : ∀ payload, Capture.read (meterFiles meterPayload) ⟨"p", false⟩ = .ok payload →
      payload.length ≤ meterConfig.ingest.maxBodyBytes := by
    intro payload h
    obtain rfl := Except.ok.inj ((read_meterFiles _).symm.trans h)
    decide
  have hload : (SchemaOrigin.document "s").load (meterFiles meterPayload) meterConfig.schemaCache
      .epoch = .ok ⟨((Cache.new (.new .empty) .epoch meterConfig.schemaCache.ttl).save
        meterSchema).2, meterSchema.identity⟩ := by
    rw [SchemaOrigin.load, loadDocument, ofFile_meterFiles]
    rfl
  have hr : Capture.resolve ⟨"p", false⟩ (meterFiles meterPayload) meterConfig
      ⟨.epoch, .last, .last⟩ (.document "s") = .ok (meterSchema, _) :=
    (resolve_eq_ok_iff (gives_meterFiles _)).mpr
      ⟨meterPayload, _, ⟨rfl, read_meterFiles _, decodeAll_meterPayload⟩, rfl⟩
  have hdecode : (Command.decode ⟨"p", false⟩ (.document "s") .table).run (meterFiles meterPayload)
      meterConfig ⟨.epoch, .last, .last⟩ = .ok _ := map_eq_ok_iff.mpr ⟨_, hr, rfl⟩
  have hconfig := settings_meterFiles meterPayload
    (.decode ⟨"p", false⟩ (.document "s") .table)
  obtain ⟨schema, r, t, printed, document, hr', -, hrun, hparse, hprinted, hagrees⟩ :=
    (decode_agrees_ingest hconfig hfits (.document "s") .table "m1" ⟨.epoch, .last, .last⟩
      ⟨.epoch, .last, .last⟩).2 _ hdecode
  obtain ⟨rfl, rfl⟩ := Prod.mk.inj (Except.ok.inj (hr.symm.trans hr'))
  exact ⟨_, _, printed, document, t, hload, by decide, hr, hrun, hparse, hprinted, hagrees.records,
    hagrees.stored, hagrees.unknown, (hagrees.time rfl).2.1⟩

def unmeasured : List UInt8 := [10, 7, 8, 2, 21, 0, 0, 192, 127]

/-- What is not a number is decoded, but null is printed for it. -/
theorem printed_without_value :
    ∃ (r : Resolved) (printed : String) (document report record events time created : Json.Value),
      Capture.resolve ⟨"p", false⟩ (meterFiles unmeasured) meterConfig
        ⟨.epoch, .epoch, .epoch⟩ (.document "s") = .ok (meterSchema, r) ∧
      r.readings = [⟨2, "flow", ⟨0x7FF8000000000000⟩, "l/s"⟩] ∧
      (Command.ingest ⟨"p", false⟩ (.document "s") "m1").run
        (meterFiles unmeasured) meterConfig ⟨.epoch, .epoch, .epoch⟩ =
          .ok (printed ++ "\n") ∧
      Json.parse printed = some document ∧
      document.fields? ["report", "records", "events"] =
        some [some report, some (.array [record]), some events] ∧
      record.fields? ["device_id", "timestamp", "type", "value", "unit", "created_at"] =
        some [some (.string (some "m1")), some time, some (.string (some "flow")), some .null,
          some (.string (some "l/s")), some created] := by
  have hms : Measurement.decodeAll unmeasured =
      .ok [⟨2, some (.float32 ⟨0x7FC00000⟩)⟩] := by cbv
  have hholds : Capture.Holds ⟨"p", false⟩ (meterFiles unmeasured)
      (some meterSchema) meterSchema _ _ := ⟨rfl, read_meterFiles _, hms⟩
  obtain ⟨t, printed, document, -, htells, hrun, hparse, hprinted⟩ :=
    printed_of_holds (gives_meterFiles _) hholds (by decide) (by decide)
      ⟨.epoch, .epoch, .epoch⟩ "m1"
  have hr : Capture.resolve ⟨"p", false⟩ (meterFiles unmeasured) meterConfig
      ⟨.epoch, .epoch, .epoch⟩ (.document "s") = .ok (meterSchema, _) :=
    (resolve_eq_ok_iff (gives_meterFiles _)).mpr ⟨_, _, hholds, rfl⟩
  have hreadings : (resolve meterSchema.lookup .epoch
      [⟨2, some (.float32 ⟨0x7FC00000⟩)⟩]).readings =
        [⟨2, "flow", ⟨0x7FF8000000000000⟩, "l/s"⟩] := by cbv
  obtain ⟨report, records, events, hfields, -, hrecords, -⟩ := hprinted.parts
  rw [htells.records, Ingestor.records, hreadings] at hrecords
  obtain ⟨record, rfl⟩ : ∃ record, records = [record] := by
    cases hrecords with
    | cons _ hrest => cases hrest with
      | nil => exact ⟨_, rfl⟩
  obtain ⟨time, value, created, hrecord, hvalue, -⟩ := (List.forall₂_cons.mp hrecords).1
  have hnull : value = .null := by
    cases hvalue with
    | number hfinite => exact absurd hfinite (by decide)
    | null => rfl
  exact ⟨_, printed, document, report, record, .array events, time, created, hr, hreadings, hrun,
    hparse, hfields, hnull ▸ hrecord⟩

end Agreement

end Command

end Telemetry
