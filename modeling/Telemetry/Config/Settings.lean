import Telemetry.Files
import Telemetry.Ingest.Basic

namespace Telemetry

namespace Config

inductive LogFormat where
  | structuredJson
  | pretty
deriving DecidableEq, Repr

namespace LogFormat

def name : LogFormat → String
  | structuredJson => "structured-json"
  | pretty => "pretty"

def ofName? : String → Option LogFormat
  | "structured-json" => some structuredJson
  | "pretty" => some pretty
  | _ => none

end LogFormat

inductive Console where
  | stdout
  | stderr
deriving DecidableEq, Repr

namespace Console

def name : Console → String
  | stdout => "stdout"
  | stderr => "stderr"

def ofName? : String → Option Console
  | "stdout" => some stdout
  | "stderr" => some stderr
  | _ => none

end Console

structure Logging where
  directory : String
  format : LogFormat
  filePrefix : Option String
  console : Console
deriving DecidableEq, Repr

def Logging.default : Logging := ⟨"target/logs", .structuredJson, none, .stdout⟩

def defaultLimits : Ingest.Limits := ⟨1048576, "telemetry-events"⟩

structure SchemaCache where
  ttl : Time.Span
  directory : Option String
deriving DecidableEq, Repr

def SchemaCache.default : SchemaCache := ⟨.ofSeconds 86400, none⟩

end Config

structure Config where
  logging : Config.Logging
  ingest : Ingest.Limits
  schemaCache : Config.SchemaCache
  metricsEnabled : Bool
deriving DecidableEq, Repr

inductive ConfigError where
  | malformed
  | noBodyBytes
  | blankTopic
  | noTtl
  | notADirectory (path : String)
  | unreadable (path : String)
  | inFile (path : String) (e : ConfigError)
  | notFound (inspected : List String)
deriving DecidableEq, Repr

namespace ConfigError

def chain : ConfigError → List String
  | malformed => ["failed to parse configuration", Fault.toml.mark]
  | noBodyBytes => ["ingest.max_body_bytes must be greater than zero"]
  | blankTopic => ["ingest.telemetry_topic must not be empty"]
  | noTtl => ["schema_cache.ttl must be greater than zero"]
  | notADirectory path => ["schema_cache.schema_dir " ++ path ++ " is not a directory"]
  | unreadable path => ["unable to read config file " ++ path, Fault.io.mark]
  | inFile path e => ("invalid config file " ++ path) :: e.chain
  | notFound inspected =>
    ["no configuration files found. inspected: " ++ ", ".intercalate inspected]

end ConfigError

namespace Config

def default : Config := ⟨.default, defaultLimits, .default, true⟩

def defect? (files : Files) (c : Config) : Option ConfigError :=
  if c.ingest.maxBodyBytes = 0 then some .noBodyBytes
  else if Text.isBlankText c.ingest.topic then some .blankTopic
  else if c.schemaCache.ttl.nanos = 0 then some .noTtl
  else
    match c.schemaCache.directory with
    | some path =>
      if files.exists? path ∧ ¬files.isDirectory path then some (.notADirectory path) else none
    | none => none

end Config

end Telemetry
