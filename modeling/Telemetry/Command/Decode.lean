import Telemetry.Command.Capture
import Telemetry.Config.Settings

namespace Telemetry.Command

open Resolution Text Time

structure Schemas where
  cache : Cache
  identity : Schema.Identity

def loadDocument (files : Files) (ttl : Span) (now : Instant) (path : String) :
    Except CommandError Schemas :=
  match Schema.ofFile files path with
  | .error e => .error (.badSchema path e)
  | .ok schema =>
    match (Cache.new (.new .empty) now ttl).save schema with
    | (.error e, _) => .error (.schema e)
    | (.ok (), cache) => .ok ⟨cache, schema.identity⟩

def loadDirectory (files : Files) (settings : Config.SchemaCache) (now : Instant)
    (identity : Schema.Identity) : Except CommandError Schemas :=
  match settings.directory with
  | none => .error .noDirectory
  | some path =>
    match Schema.Store.ofDirectory files path with
    | .error e => .error (.badDirectory path e)
    | .ok store => .ok ⟨.new (.new store) now settings.ttl, identity⟩

def SchemaOrigin.load (files : Files) (settings : Config.SchemaCache) (now : Instant) :
    SchemaOrigin → Except CommandError Schemas
  | document path => loadDocument files settings.ttl now path
  | directory identity => loadDirectory files settings now identity

def Schemas.schema (s : Schemas) (now : Instant) : Except CommandError Schema :=
  match ((s.cache.setClock now).get s.identity).1 with
  | .error e => .error (.schema e)
  | .ok none => .error (.unregistered s.identity)
  | .ok (some schema) => .ok schema

def alignRight (width : Nat) (s : String) : String :=
  String.ofList (s.toList.leftpad width ' ')

def alignLeft (width : Nat) (s : String) : String :=
  String.ofList (s.toList.rightpad width ' ')

def row (id name value unit : String) : String :=
  alignRight 6 id ++ "  " ++ alignLeft 24 name ++ " " ++ alignRight 16 value ++ "  " ++ unit

def timestampOrigin : TimestampSource → String
  | .payload => "payload"
  | .fallback => "local clock"

def tableLines (i : Schema.Identity) (r : Resolved) : List String :=
  ["schema:    " ++ i.app ++ "@" ++ i.version,
    "timestamp: " ++ r.timestamp.offsetText ++ " (" ++ timestampOrigin r.source ++ ")",
    row "ID" "NAME" "VALUE" "UNIT"] ++
  (r.readings.map fun x => row (toString x.id) x.name x.value.text x.unit) ++
  r.skipped.map fun s => alignRight 6 (toString s.id) ++ "  skipped: " ++ s.reason.name

def table (i : Schema.Identity) (r : Resolved) : String :=
  String.ofList (trimEnd ("\n".intercalate (tableLines i r)).toList)

def OutputFormat.render (i : Schema.Identity) (r : Resolved) : OutputFormat → String
  | table => Command.table i r
  | json => r.toJson.pretty

def Capture.resolve (capture : Capture) (files : Files) (config : Config) (times : Moments)
    (origin : SchemaOrigin) : Except CommandError (Schema × Resolved) := do
  let schemas ← origin.load files config.schemaCache times.loading
  let schema ← schemas.schema times.lookup
  let payload ← capture.read files
  match resolveBatch schema.lookup times.reading payload with
  | .error e => .error (.undecodable capture.path e)
  | .ok resolved => .ok (schema, resolved)

def Capture.decode (capture : Capture) (files : Files) (config : Config) (times : Moments)
    (origin : SchemaOrigin) (format : OutputFormat) : Except CommandError String :=
  (capture.resolve files config times origin).map fun (schema, resolved) =>
    format.render schema.identity resolved ++ "\n"

end Telemetry.Command
