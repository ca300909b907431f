import Telemetry.Measurement.Basic
import Telemetry.Schema.Entry
import Telemetry.Time.Instant

namespace Telemetry.Resolution

open Number Schema Time Wire

structure Reading where
  id : UInt32
  name : String
  value : Binary64
  unit : String
deriving DecidableEq, Repr

inductive SkipReason where
  | unknownId
  | missingValue
deriving DecidableEq, Repr

def SkipReason.name : SkipReason → String
  | unknownId => "unknown_id"
  | missingValue => "missing_value"

structure Skipped where
  id : UInt32
  reason : SkipReason
deriving DecidableEq, Repr

inductive TimestampSource where
  | payload
  | fallback
deriving DecidableEq, Repr

def TimestampSource.name : TimestampSource → String
  | payload => "payload"
  | fallback => "fallback"

structure Resolved where
  readings : List Reading
  timestamp : Instant
  source : TimestampSource
  skipped : List Skipped
deriving DecidableEq

namespace Resolved

def skippedCount (r : Resolved) (reason : SkipReason) : Nat :=
  r.skipped.countP (·.reason = reason)

def unknownIds (r : Resolved) : List UInt32 :=
  (r.skipped.filter (·.reason = .unknownId)).map (·.id)

end Resolved

inductive Outcome where
  | reading (r : Reading)
  | skipped (s : Skipped)
  | timestamp
deriving DecidableEq

namespace Outcome

def reading? : Outcome → Option Reading
  | reading r => some r
  | _ => none

def skipped? : Outcome → Option Skipped
  | skipped s => some s
  | _ => none

end Outcome

def outcome (lookup : Lookup) (m : Measurement) : Outcome :=
  match lookup.get? m.id with
  | none => .skipped ⟨m.id, .unknownId⟩
  | some e =>
    if e.isTimestamp then .timestamp
    else
      match m.value with
      | none => .skipped ⟨m.id, .missingValue⟩
      | some v => .reading ⟨m.id, e.name, v.toBinary64, e.unit⟩

def carriesTimestamp (lookup : Lookup) (m : Measurement) : Bool :=
  (lookup.get? m.id).any Entry.isTimestamp

/-- The first measurement with the timestamp's name decides alone; it has to be an integer count of
milliseconds. -/
def timestamp? (lookup : Lookup) (ms : List Measurement) : Option Instant :=
  (ms.find? (carriesTimestamp lookup)).bind fun m =>
    (m.value.bind Measurement.Value.epochMillis?).bind Instant.ofMillis?

def resolve (lookup : Lookup) (fallback : Instant) (ms : List Measurement) : Resolved where
  readings := ms.filterMap fun m => (outcome lookup m).reading?
  timestamp := (timestamp? lookup ms).getD fallback
  source := if (timestamp? lookup ms).isSome then .payload else .fallback
  skipped := ms.filterMap fun m => (outcome lookup m).skipped?

def resolveBatch (lookup : Lookup) (fallback : Instant) (bytes : List UInt8) :
    Except DecodeError Resolved :=
  match Measurement.decodeAll bytes with
  | .ok ms => .ok (resolve lookup fallback ms)
  | .error e => .error e

end Telemetry.Resolution
