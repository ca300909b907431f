import Telemetry.Command.Arguments
import Telemetry.Command.Ingest
import Telemetry.Command.Inspect
import Telemetry.Config.Document

namespace Telemetry

namespace Command

def run (files : Files) (config : Config) (times : Moments) : Command → Except CommandError String
  | inspect capture => capture.inspect files
  | decode capture origin format => capture.decode files config times origin format
  | ingest capture origin device => capture.ingest files config times origin device

def paths : Command → List String
  | inspect capture => [capture.path]
  | decode capture origin _ => capture.path :: origin.path?.toList
  | ingest capture origin _ => capture.path :: origin.path?.toList

def candidates : List String := ["configs/hmon.toml", "/etc/hmon/hmon.toml"]

def Invocation.settings (i : Invocation) (files : Files) (environment : Option (List UInt8)) :
    Except ConfigError Config :=
  match i.config with
  | some path => Config.ofFile files path
  | none =>
    (Config.load? files environment candidates).map fun
      | some loaded => loaded.config
      | none => .default

def report : List String → String
  | [] => "Error"
  | [e] => "Error: " ++ e
  | [e, cause] => "Error: " ++ e ++ "\n\nCaused by:\n    " ++ cause
  | e :: causes => "Error: " ++ e ++ "\n\nCaused by:" ++ String.join
    (causes.zipIdx.map fun (cause, i) => "\n" ++ alignRight 5 (toString i) ++ ": " ++ cause)

end Command

end Telemetry
