import Telemetry.Config.Settings
import Telemetry.Toml.Parser

namespace Telemetry.Toml.Value

variable {α : Type}

def text? : Value → Option String
  | string s => some s
  | _ => none

def bool? : Value → Option Bool
  | boolean b => some b
  | _ => none

def nat? : Value → Option Nat
  | integer i => if 0 ≤ i then some i.toNat else none
  | _ => none

def fields? (names : List String) : Value → Option (List (Option Value))
  | table _ members => some (names.map (find? · members))
  | array vs => some ((List.range names.length).map (vs[·]?))
  | tables ms => some ((List.range names.length).map fun i => ms[i]?.map (table .header))
  | datetime => some (names.map fun _ => none)
  | _ => none

def isEmptySection : Value → Bool
  | table _ members => members.isEmpty
  | array vs => vs.isEmpty
  | tables ms => ms.isEmpty
  | _ => false

def word? (ofName : String → Option α) : Value → Option α
  | string s => ofName s
  | table _ [(s, v)] => if v.isEmptySection then ofName s else none
  | _ => none

def setting? (default : α) (read : Value → Option α) : Option Value → Option α
  | some v => read v
  | none => some default

end Telemetry.Toml.Value

namespace Telemetry.Config

open Toml Value

def Logging.ofToml? (v : Value) : Option Logging :=
  match v.fields? ["directory", "format", "file_prefix", "console"] with
  | some [directory, format, filePrefix, console] => do
    let d := Logging.default
    return ⟨← setting? d.directory text? directory,
      ← setting? d.format (word? LogFormat.ofName?) format,
      ← setting? d.filePrefix (fun v => v.text?.map some) filePrefix,
      ← setting? d.console (word? Console.ofName?) console⟩
  | _ => none

def limitsOfToml? (v : Value) : Option Ingest.Limits :=
  match v.fields? ["max_body_bytes", "telemetry_topic"] with
  | some [bytes, topic] => do
    return ⟨← setting? defaultLimits.maxBodyBytes nat? bytes,
      ← setting? defaultLimits.topic text? topic⟩
  | _ => none

def SchemaCache.ofToml? (v : Value) : Option SchemaCache :=
  match v.fields? ["ttl", "schema_dir"] with
  | some [ttl, directory] => do
    let d := SchemaCache.default
    return ⟨← setting? d.ttl (fun v => v.nat?.map .ofSeconds) ttl,
      ← setting? d.directory (fun v => v.text?.map some) directory⟩
  | _ => none

def metricsOfToml? (v : Value) : Option Bool :=
  match v.fields? ["enabled"] with
  | some [enabled] => setting? true bool? enabled
  | _ => none

def ofToml? (v : Value) : Option Config :=
  match v.fields? ["logging", "ingest", "schema_cache", "metrics"] with
  | some [logging, ingest, schemaCache, metrics] => do
    let d := Config.default
    return ⟨← setting? d.logging Logging.ofToml? logging, ← setting? d.ingest limitsOfToml? ingest,
      ← setting? d.schemaCache SchemaCache.ofToml? schemaCache,
      ← setting? d.metricsEnabled metricsOfToml? metrics⟩
  | _ => none

def ofText (files : Files) (text : String) : Except ConfigError Config :=
  match (parse text).bind fun members => ofToml? (.table .header members) with
  | none => .error .malformed
  | some c =>
    match c.defect? files with
    | some e => .error e
    | none => .ok c

def ofFile (files : Files) (path : String) : Except ConfigError Config :=
  match files.readText? path with
  | none => .error (.unreadable path)
  | some text => (ofText files text).mapError (.inFile path)

structure Loaded where
  config : Config
  source : String
deriving DecidableEq, Repr

/-- The file to read: the one that the environment names, else the first candidate that exists.
What the environment says is passed over if it is no text. -/
def choose? (files : Files) (environment : Option (List UInt8)) (candidates : List String) :
    Option String :=
  match environment.bind fun value => (Text.Utf8.decode value).toOption with
  | some path =>
    if Text.isBlankText path then candidates.find? files.exists? else some path
  | none => candidates.find? files.exists?

def load? (files : Files) (environment : Option (List UInt8)) (candidates : List String) :
    Except ConfigError (Option Loaded) :=
  match choose? files environment candidates with
  | none => .ok none
  | some path =>
    match ofFile files path with
    | .ok config => .ok (some ⟨config, path⟩)
    | .error e => .error e

def load (files : Files) (environment : Option (List UInt8)) (candidates : List String) :
    Except ConfigError Loaded :=
  match load? files environment candidates with
  | .ok (some loaded) => .ok loaded
  | .ok none => .error (.notFound candidates)
  | .error e => .error e

end Telemetry.Config
