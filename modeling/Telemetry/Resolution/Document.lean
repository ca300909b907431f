import Telemetry.Resolution.Basic
import Telemetry.Time.Rfc3339

namespace Telemetry

open Json

namespace Resolution

namespace Reading

def toJson (r : Reading) : Value :=
  .record [("id", .nat r.id.toNat), ("name", .text r.name), ("value", .float64 r.value),
    ("unit", .text r.unit)]

def ofJson? (j : Value) : Option Reading :=
  match j.fields? ["id", "name", "value", "unit"] with
  | some [some id, some name, some value, some unit] => do
    return ⟨← id.uint32?, ← name.text?, ← value.float64?, ← unit.text?⟩
  | _ => none

end Reading

namespace SkipReason

def toJson (r : SkipReason) : Value := .text r.name

def ofName? : String → Option SkipReason
  | "unknown_id" => some unknownId
  | "missing_value" => some missingValue
  | _ => none

end SkipReason

namespace Skipped

def toJson (s : Skipped) : Value :=
  .record [("id", .nat s.id.toNat), ("reason", s.reason.toJson)]

def ofJson? (j : Value) : Option Skipped :=
  match j.fields? ["id", "reason"] with
  | some [some id, some reason] => do
    return ⟨← id.uint32?, ← reason.word? SkipReason.ofName?⟩
  | _ => none

end Skipped

namespace TimestampSource

def toJson (s : TimestampSource) : Value := .text s.name

def ofName? : String → Option TimestampSource
  | "payload" => some payload
  | "fallback" => some fallback
  | _ => none

def ofJson? (j : Value) : Option TimestampSource := j.word? ofName?

end TimestampSource

namespace Resolved

def toJson (r : Resolved) : Value :=
  .record [("readings", .array (r.readings.map Reading.toJson)), ("timestamp", r.timestamp.toJson),
    ("timestamp_source", r.source.toJson), ("skipped", .array (r.skipped.map Skipped.toJson))]

def ofJson? (j : Value) : Option Resolved :=
  match j.fields? ["readings", "timestamp", "timestamp_source", "skipped"] with
  | some [some readings, some timestamp, some source, some skipped] => do
    return ⟨← readings.list? Reading.ofJson?, ← Time.Instant.ofJson? timestamp,
      ← TimestampSource.ofJson? source, ← skipped.list? Skipped.ofJson?⟩
  | _ => none

end Resolved

end Resolution

end Telemetry
