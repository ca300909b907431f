import Telemetry.Cache.Basic
import Telemetry.Ingest.Exposition
import Telemetry.Ingest.Record

namespace Telemetry

namespace Ingest

open Resolution Schema Time Wire

structure SinkError where
  reason : String
deriving DecidableEq, Repr

def SinkError.message (e : SinkError) : String := "telemetry sink rejected record: " ++ e.reason

structure Sink where
  stored : Array Record
  rejected : List String

namespace Sink

def empty : Sink := ⟨#[], []⟩

def records (s : Sink) : List Record := s.stored.toList

def accepts (s : Sink) (name : String) : Bool := !s.rejected.contains name

def reject (s : Sink) (name : String) : Sink := { s with rejected := s.rejected ++ [name] }

def save (s : Sink) (r : Record) : Except SinkError String × Sink :=
  if s.accepts r.kind then
    (.ok ("record-" ++ toString (s.stored.size + 1)), { s with stored := s.stored.push r })
  else (.error ⟨"writes for '" ++ r.kind ++ "' are disabled"⟩, s)

end Sink

structure Tally where
  stored : Nat
  failures : Nat
deriving DecidableEq, Repr

def Sink.saveAll (s : Sink) (tally : Tally) : List Record → Tally × Sink
  | [] => (tally, s)
  | r :: records =>
    match s.save r with
    | (.ok _, s) => s.saveAll ⟨tally.stored + 1, tally.failures⟩ records
    | (.error _, s) => s.saveAll ⟨tally.stored, tally.failures + 1⟩ records

structure Publication where
  topic : String
  payload : String
deriving DecidableEq, Repr

structure PublishError where
  topic : String
  reason : String
deriving DecidableEq, Repr

def PublishError.message (e : PublishError) : String :=
  "failed to publish to topic '" ++ e.topic ++ "': " ++ e.reason

structure Publisher where
  published : List Publication
  failing : Bool

def Publisher.publish (p : Publisher) (publication : Publication) :
    Except PublishError Unit × Publisher :=
  if p.failing then (.error ⟨publication.topic, "bus unavailable"⟩, p)
  else (.ok (), { p with published := p.published ++ [publication] })

structure Limits where
  maxBodyBytes : Nat
  topic : String
deriving DecidableEq, Repr

end Ingest

inductive IngestError where
  | schemaNotFound (identity : Schema.Identity)
  | schema (e : SchemaError)
  | bodyTooLarge (size max : Nat)
  | decode (e : Wire.DecodeError)
  | publish (reason : String)
deriving DecidableEq, Repr

namespace IngestError

def kind : IngestError → String
  | schemaNotFound _ => "schema_not_found"
  | schema _ => "schema"
  | bodyTooLarge .. => "body_too_large"
  | decode e => e.kind
  | publish _ => "publish"

def message : IngestError → String
  | schemaNotFound i => "schema not found for " ++ i.app ++ "@" ++ i.version
  | schema e => e.message
  | bodyTooLarge size max =>
    "request body of " ++ toString size ++ " bytes exceeds the " ++ toString max ++ " byte limit"
  | decode e => "failed to decode measurement batch: " ++ e.message
  | publish reason => "telemetry event could not be prepared for publishing: " ++ reason

def isClientError : IngestError → Bool
  | decode _ | bodyTooLarge .. | schemaNotFound _ => true
  | schema _ | publish _ => false

def chain : IngestError → List String
  | schema e => e.chain
  | decode e => (decode e).message :: e.chain
  | e => [e.message]

end IngestError

structure Ingestor where
  cache : Cache
  sink : Ingest.Sink
  publisher : Ingest.Publisher
  limits : Ingest.Limits
  metrics : Option Ingest.Metrics

namespace Ingestor

open Ingest Resolution Schema Time Wire

def records (device : Device) (now : Instant) (r : Resolved) : List Record :=
  r.readings.map fun x => ⟨device.id, r.timestamp, x.name, x.value, x.unit, now⟩

def countMetrics (i : Ingestor) (f : Metrics → Metrics) : Ingestor :=
  { i with metrics := i.metrics.map f }

/-- Stores and announces a resolved batch. Neither a record that the sink rejects nor a publisher
that is out of order makes the batch fail. -/
def accept (i : Ingestor) (device : Device) (r : Resolved) : Report × Ingestor :=
  let (tally, sink) := i.sink.saveAll ⟨0, 0⟩ (records device i.cache.clock r)
  let event : Event := ⟨device.id, device.app, device.version, tally.stored, r.timestamp⟩
  let (_, publisher) := i.publisher.publish ⟨i.limits.topic, event.toJson.render⟩
  let report : Report := ⟨tally.stored, r.skippedCount .unknownId, r.skippedCount .missingValue,
    tally.failures, r.timestamp⟩
  let i := { i with sink, publisher }
  (report, i.countMetrics fun m =>
    ((m.countDecoded.addStored report.stored).addSkipped .unknownId
      report.skippedUnknown).addSkipped .missingValue report.skippedEmpty)

def process (i : Ingestor) (device : Device) (body : List UInt8) (schema : Schema) :
    Except IngestError Report × Ingestor :=
  match resolveBatch schema.lookup i.cache.clock body with
  | .error e => (.error (.decode e), i.countMetrics (·.countDecodeError e.kind))
  | .ok r => let (report, i) := i.accept device r; (.ok report, i)

def consult (i : Ingestor) (device : Device) (body : List UInt8) :
    Except IngestError Schema × Ingestor :=
  let size := body.length
  if i.limits.maxBodyBytes < size then (.error (.bodyTooLarge size i.limits.maxBodyBytes), i)
  else
    let i := i.countMetrics (·.observeBatchSize size)
    let identity : Identity := ⟨device.app, device.version⟩
    let (found, cache) := i.cache.get identity
    let schema := match found with
      | .error e => .error (.schema e)
      | .ok none => .error (.schemaNotFound identity)
      | .ok (some schema) => .ok schema
    (schema, { i with cache })

def ingest (i : Ingestor) (device : Device) (body : List UInt8) :
    Except IngestError Report × Ingestor :=
  match i.consult device body with
  | (.error e, i) => (.error e, i)
  | (.ok schema, i) => i.process device body schema

def setClock (i : Ingestor) (t : Instant) : Ingestor := { i with cache := i.cache.setClock t }

/-- The clock may move on between the look-up of the schema and the reading of the batch. -/
def ingestAt (i : Ingestor) (lookup reading : Instant) (device : Device) (body : List UInt8) :
    Except IngestError Report × Ingestor :=
  match (i.setClock lookup).consult device body with
  | (.error e, i) => (.error e, i)
  | (.ok schema, i) => (i.setClock reading).process device body schema

end Ingestor

namespace Ingest

inductive Step where
  | cache (s : Cache.Step)
  | ingest (device : Device) (body : List UInt8)
  | reject (name : String)

inductive Answer where
  | cache (a : Cache.Answer)
  | ingested (r : Except IngestError Report)
  | done

end Ingest

open Ingest in
def Ingestor.step (i : Ingestor) : Step → Answer × Ingestor
  | .cache s => let (a, cache) := i.cache.step s; (.cache a, { i with cache })
  | .ingest device body => let (r, i) := i.ingest device body; (.ingested r, i)
  | .reject name => (.done, { i with sink := i.sink.reject name })

end Telemetry
