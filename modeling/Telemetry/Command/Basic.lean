import Telemetry.Schema.Basic
import Telemetry.Text.Hex

namespace Telemetry

namespace Command

structure Capture where
  path : String
  hex : Bool
deriving DecidableEq, Repr

inductive SchemaOrigin where
  | document (path : String)
  | directory (identity : Schema.Identity)
deriving DecidableEq, Repr

def SchemaOrigin.path? : SchemaOrigin → Option String
  | document path => some path
  | directory _ => none

/-- When the clock is read: to take the schema into the cache, to look it up there, and to read the
batch under it. -/
structure Moments where
  loading : Time.Instant
  lookup : Time.Instant
  reading : Time.Instant

inductive OutputFormat where
  | table
  | json
deriving DecidableEq, Repr

def OutputFormat.ofName? : String → Option OutputFormat
  | "table" => some table
  | "json" => some json
  | _ => none

end Command

open Command in
inductive Command where
  | inspect (capture : Capture)
  | decode (capture : Capture) (origin : SchemaOrigin) (format : OutputFormat)
  | ingest (capture : Capture) (origin : SchemaOrigin) (device : String)
deriving DecidableEq, Repr

end Telemetry
