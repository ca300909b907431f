import Telemetry.Command.Basic

/-! The command line: words, flags and options with a value. Options may come in any order, each
once, as two arguments or joined by an equals sign; behind two dashes there are only words. -/

namespace Telemetry.Command

inductive Shape where
  | word
  | stop
  | long (name : String) (value : Option String)
  | short
deriving DecidableEq, Repr

def Shape.of (argument : String) : Shape :=
  match argument.toList with
  | ['-', '-'] => .stop
  | '-' :: '-' :: cs =>
    match cs.span (· ≠ '=') with
    | (name, '=' :: value) => .long (String.ofList name) (some (String.ofList value))
    | (name, _) => .long (String.ofList name) none
  | '-' :: _ :: _ => .short
  | _ => .word

inductive Token where
  | word (text : String)
  | flag (name : String)
  | option (name value : String)
deriving DecidableEq, Repr

namespace Token

def word? : Token → Option String
  | word text => some text
  | _ => none

def name? : Token → Option String
  | word _ => none
  | flag name => some name
  | option name _ => some name

def valueOf? (name : String) : Token → Option String
  | option name' value => if name' = name then some value else none
  | _ => none

end Token

structure Grammar where
  flags : List String
  options : List String
deriving DecidableEq, Repr

def Grammar.scan (g : Grammar) : List String → Option (List Token)
  | [] => some []
  | argument :: rest =>
    match Shape.of argument with
    | .word => (g.scan rest).map (.word argument :: ·)
    | .stop => some (rest.map .word)
    | .short => none
    | .long name (some value) =>
      if g.options.contains name then (g.scan rest).map (.option name value :: ·) else none
    | .long name none =>
      if g.flags.contains name then (g.scan rest).map (.flag name :: ·)
      else if g.options.contains name then
        match rest with
        | [] => none
        | value :: rest =>
          if Shape.of value = .word then (g.scan rest).map (.option name value :: ·) else none
      else none

structure Line where
  tokens : List Token

namespace Line

def read? (g : Grammar) (arguments : List String) : Option Line :=
  match g.scan arguments with
  | some tokens => if (tokens.filterMap Token.name?).Nodup then some ⟨tokens⟩ else none
  | none => none

def words (l : Line) : List String := l.tokens.filterMap Token.word?

def hasFlag (l : Line) (name : String) : Bool := l.tokens.contains (.flag name)

def value? (l : Line) (name : String) : Option String := l.tokens.findSome? (Token.valueOf? name)

def path? (text : String) : Option String := if text = "" then none else some text

def capture? (l : Line) : Option Capture :=
  match l.words with
  | [word] => (path? word).map (⟨·, l.hasFlag "hex"⟩)
  | _ => none

def origin? (l : Line) : Option SchemaOrigin :=
  match l.value? "schema", l.value? "app", l.value? "app-version" with
  | some path, none, _ => (path? path).map .document
  | none, some app, some version => some (.directory ⟨app, version⟩)
  | _, _, _ => none

def format? (l : Line) : Option OutputFormat :=
  match l.value? "format" with
  | some name => OutputFormat.ofName? name
  | none => some .table

def defaultDevice : String := "hmonctl"

def inspect? (l : Line) : Option Command := l.capture?.map .inspect

def decode? (l : Line) : Option Command := do
  return .decode (← l.capture?) (← l.origin?) (← l.format?)

def ingest? (l : Line) : Option Command := do
  return .ingest (← l.capture?) (← l.origin?) ((l.value? "device").getD defaultDevice)

end Line

def schemaOptions : List String := ["schema", "app", "app-version"]

def form? : String → Option (Grammar × (Line → Option Command))
  | "inspect" => some (⟨["hex"], []⟩, Line.inspect?)
  | "decode" => some (⟨["hex"], "format" :: schemaOptions⟩, Line.decode?)
  | "ingest" => some (⟨["hex"], "device" :: schemaOptions⟩, Line.ingest?)
  | _ => none

structure Invocation where
  config : Option String
  command : Command
deriving DecidableEq, Repr

def leading? (config : Option String) : List String → Option (Option String × List String)
  | [] => none
  | argument :: rest =>
    match Shape.of argument with
    | .word => some (config, argument :: rest)
    | .long "config" (some path) => if config.isNone then leading? (some path) rest else none
    | .long "config" none =>
      match rest with
      | [] => none
      | path :: rest =>
        if config.isNone ∧ Shape.of path = .word then leading? (some path) rest else none
    | _ => none

def Invocation.ofArguments? (arguments : List String) : Option Invocation :=
  match leading? none arguments with
  | some (config, name :: rest) => do
    let (grammar, command?) ← form? name
    let line ← Line.read? ⟨grammar.flags, "config" :: grammar.options⟩ rest
    let config := (line.value? "config").or config
    if config = some "" then none else return ⟨config, ← command? line⟩
  | _ => none

end Telemetry.Command
