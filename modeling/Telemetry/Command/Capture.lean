import Telemetry.Command.Basic
import Telemetry.Ingest.Basic

namespace Telemetry

open Command

inductive CommandError where
  | unreadable (path : String)
  | notText (path : String) (defect : Text.Utf8.Defect)
  | notHex (path : String) (defect : Text.Hex.Defect)
  | notAMessage (path : String) (e : Wire.DecodeError)
  | badSchema (path : String) (e : SchemaError)
  | noDirectory
  | badDirectory (path : String) (e : SchemaError)
  | schema (e : SchemaError)
  | unregistered (identity : Schema.Identity)
  | undecodable (path : String) (e : Wire.DecodeError)
  | notIngested (path : String) (e : IngestError)
  | unreadableEvent
deriving DecidableEq, Repr

def CommandError.chain : CommandError → List String
  | unreadable path => ["unable to read " ++ path, Fault.io.mark]
  | notText path defect => [path ++ " is not a hex text file", defect.message]
  | notHex path defect => ["invalid hex in " ++ path, defect.message]
  | notAMessage path e => (path ++ " is not a valid wire payload") :: e.chain
  | badSchema path e => ("invalid schema document " ++ path) :: e.chain
  | noDirectory => ["--app needs schema_cache.schema_dir in the configuration"]
  | badDirectory path e => ("failed to load schemas from " ++ path) :: e.chain
  | schema e => e.chain
  | unregistered i => ["no schema registered for " ++ i.app ++ "@" ++ i.version]
  | undecodable path e => ("failed to decode " ++ path) :: e.chain
  | notIngested path e => ("failed to ingest " ++ path) :: e.chain
  | unreadableEvent => [Fault.json.mark]

end Telemetry

namespace Telemetry.Command

open Text

def isGap (b : UInt8) : Bool :=
  b = 0x20 || b = 0x09 || b = 0x0A || b = 0x0C || b = 0x0D

def spelled (path : String) (raw : List UInt8) : Except CommandError (List UInt8) :=
  match Utf8.decode raw with
  | .error defect => .error (.notText path defect)
  | .ok _ => (Hex.decode (raw.filter (!isGap ·))).mapError (.notHex path)

def Capture.read (files : Files) (c : Capture) : Except CommandError (List UInt8) :=
  match files.read? c.path with
  | none => .error (.unreadable c.path)
  | some raw => if c.hex then spelled c.path raw else .ok raw

end Telemetry.Command
