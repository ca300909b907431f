import Std.Time.DateTime.Timestamp
import Telemetry.Command.Run

/-! The command line tool: reads the files that a command needs, runs it, and prints what comes of
it. -/

namespace Telemetry.Tool

def survey (path : String) : IO (List (String × Node)) := do
  let here ← IO.currentDir
  let found ← (Files.onTheWay path).mapM fun (path : String) => do
    let isDirectory ← (here / path).isDir
    try
      if isDirectory then
        discard (here / path).readDir
        return [(path, Node.directory)]
      return [(path, Node.file (← IO.FS.readBinFile (here / path)).toList)]
    catch _ =>
      if ← (here / path).pathExists then return [(path, Node.closed (some isDirectory))]
      return []
  return found.flatten

def surveyDocuments (path : String) : IO (List (String × Node)) := do
  let here ← IO.currentDir
  let names ← try pure ((← (here / path).readDir).toList.map (·.fileName)) catch _ => pure []
  let found ← (names.filter Schema.isDocument).mapM fun name => survey (Files.join path name)
  return (← survey path) ++ found.flatten

def gather (nodes : List (String × Node)) : IO Files := do
  return Files.ofList (Files.locate [] (← IO.currentDir).toString) nodes

def fail (chain : List String) : IO UInt32 := do
  IO.eprintln (Command.report chain)
  return 1

def readClock : IO Time.Instant := do
  let nanos := (← Std.Time.Timestamp.now).toNanosecondsSinceUnixEpoch.val
  return (Time.Instant.ofNanos? nanos).getD .epoch

-- The library would replace what is no text in a variable, so the block itself is read.
def readVariable (name : String) : IO (Option (List UInt8)) := do
  let key := Text.Utf8.encode (name ++ "=")
  let block ← IO.FS.readBinFile "/proc/self/environ"
  let entries := block.toList.splitBy fun b _ => b != 0
  return (entries.find? key.isPrefixOf).map fun entry => (entry.drop key.length).filter (· != 0)

def execute (invocation : Command.Invocation) : IO UInt32 := do
  let environment ← readVariable "HMON_CONFIG"
  let override := environment.bind fun value => (Text.Utf8.decode value).toOption
  let sources := invocation.config.toList ++ override.toList ++ Command.candidates
  let named ← (sources ++ invocation.command.paths).mapM survey
  let settings (files : Files) := invocation.settings files environment
  let files ← gather named.flatten
  let directory := (settings files).toOption.bind (·.schemaCache.directory)
  let documents ← directory.toList.mapM surveyDocuments
  let files ← gather (named.flatten ++ documents.flatten)
  match settings files with
  | .error e => fail e.chain
  | .ok config =>
    let times : Command.Moments := ⟨← readClock, ← readClock, ← readClock⟩
    match invocation.command.run files config times with
    | .error e => fail e.chain
    | .ok text =>
      IO.print text
      return 0

end Telemetry.Tool

def main (arguments : List String) : IO UInt32 :=
  match Telemetry.Command.Invocation.ofArguments? arguments with
  | some invocation => Telemetry.Tool.execute invocation
  | none => do
    IO.eprintln "usage: [--config FILE] (inspect | decode | ingest) FILE [OPTIONS]"
    return 2
