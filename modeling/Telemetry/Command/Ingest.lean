import Telemetry.Command.Decode
import Telemetry.Json.Value

namespace Telemetry.Command

open Ingest Json

structure Trial where
  report : Report
  records : List Record
  events : List (String × Event)
  metrics : Option Metrics

def readEvent (p : Publication) : Except CommandError (String × Event) :=
  match (parse p.payload).bind Event.ofJson? with
  | some event => .ok (p.topic, event)
  | none => .error .unreadableEvent

def trialIngestor (config : Config) (cache : Cache) : Ingestor :=
  ⟨cache, .empty, ⟨[], false⟩, config.ingest, if config.metricsEnabled then some .empty else none⟩

def Capture.trial (capture : Capture) (files : Files) (config : Config) (times : Moments)
    (origin : SchemaOrigin) (device : String) : Except CommandError Trial := do
  let schemas ← origin.load files config.schemaCache times.loading
  let payload ← capture.read files
  let device : Device := ⟨device, schemas.identity.app, schemas.identity.version⟩
  match (trialIngestor config schemas.cache).ingestAt times.lookup times.reading device payload with
  | (.error e, _) => .error (.notIngested capture.path e)
  | (.ok report, i) =>
    return ⟨report, i.sink.records, ← i.publisher.published.mapM readEvent, i.metrics⟩

def Trial.toJson (t : Trial) : Value :=
  .record ([("report", t.report.toJson), ("records", .array (t.records.map Record.toJson)),
    ("events", .array (t.events.map fun (topic, event) =>
      .record [("topic", .text topic), ("event", event.toJson)]))] ++
    (t.metrics.map fun m => ("metrics", .text m.text)).toList)

def Capture.ingest (capture : Capture) (files : Files) (config : Config) (times : Moments)
    (origin : SchemaOrigin) (device : String) : Except CommandError String :=
  (capture.trial files config times origin device).map fun t => t.toJson.sorted.pretty ++ "\n"

end Telemetry.Command
