import Telemetry.Resolution.Document

namespace Telemetry.Ingest

open Json Number Time

structure Device where
  id : String
  app : String
  version : String
deriving DecidableEq, Repr

structure Record where
  device : String
  timestamp : Instant
  kind : String
  value : Binary64
  unit : String
  createdAt : Instant
deriving DecidableEq

structure Event where
  device : String
  app : String
  version : String
  count : Nat
  timestamp : Instant
deriving DecidableEq

structure Report where
  stored : Nat
  skippedUnknown : Nat
  skippedEmpty : Nat
  storageFailures : Nat
  timestamp : Instant
deriving DecidableEq

namespace Device

def toJson (d : Device) : Value :=
  .record [("device_id", .text d.id), ("app_name", .text d.app), ("app_version", .text d.version)]

def ofJson? (j : Value) : Option Device :=
  match j.fields? ["device_id", "app_name", "app_version"] with
  | some [some id, some app, some version] => do
    return ⟨← id.text?, ← app.text?, ← version.text?⟩
  | _ => none

end Device

namespace Record

def toJson (r : Record) : Value :=
  .record [("device_id", .text r.device), ("timestamp", r.timestamp.toJson), ("type", .text r.kind),
    ("value", .float64 r.value), ("unit", .text r.unit), ("created_at", r.createdAt.toJson)]

def ofJson? (j : Value) : Option Record :=
  match j.fields? ["device_id", "timestamp", "type", "value", "unit", "created_at"] with
  | some [some device, some timestamp, some kind, some value, some unit, some createdAt] => do
    return ⟨← device.text?, ← Instant.ofJson? timestamp, ← kind.text?, ← value.float64?,
      ← unit.text?, ← Instant.ofJson? createdAt⟩
  | _ => none

end Record

def countOfJson? (j : Value) : Option Nat := j.uint64?.map (·.toNat)

namespace Event

def toJson (e : Event) : Value :=
  .record [("device_id", .text e.device), ("app_name", .text e.app),
    ("app_version", .text e.version), ("count", .nat e.count), ("timestamp", e.timestamp.toJson)]

def ofJson? (j : Value) : Option Event :=
  match j.fields? ["device_id", "app_name", "app_version", "count", "timestamp"] with
  | some [some device, some app, some version, some count, some timestamp] => do
    return ⟨← device.text?, ← app.text?, ← version.text?, ← countOfJson? count,
      ← Instant.ofJson? timestamp⟩
  | _ => none

end Event

namespace Report

def toJson (r : Report) : Value :=
  .record [("stored", .nat r.stored), ("skipped_unknown", .nat r.skippedUnknown),
    ("skipped_empty", .nat r.skippedEmpty), ("storage_failures", .nat r.storageFailures),
    ("timestamp", r.timestamp.toJson)]

def ofJson? (j : Value) : Option Report :=
  match j.fields? ["stored", "skipped_unknown", "skipped_empty", "storage_failures",
    "timestamp"] with
  | some [some stored, some unknown, some empty, some failures, some timestamp] => do
    return ⟨← countOfJson? stored, ← countOfJson? unknown, ← countOfJson? empty,
      ← countOfJson? failures, ← Instant.ofJson? timestamp⟩
  | _ => none

end Report

end Telemetry.Ingest
