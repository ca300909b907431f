import Telemetry.Number.Numeral
import Telemetry.Text.Hex

namespace Telemetry.Json

open Number

/-- A text is absent where its escapes spell half of a surrogate pair: such a document is well
formed, but that text cannot be had from it. -/
inductive Value where
  | null
  | bool (b : Bool)
  | number (n : Numeral)
  | string (s : Option String)
  | array (elements : List Value)
  | object (members : List (Option String × Value))
deriving Inhabited

namespace Value

def text (s : String) : Value := string (some s)

def int (i : Int) : Value := number (.ofInt i)

def nat (n : Nat) : Value := int n

def record (members : List (String × Value)) : Value :=
  object (members.map fun (k, v) => (some k, v))

end Value

def layout64 : Layout := ⟨fun lead => -5 ≤ lead && lead < 16, true, .even⟩

def layout32 : Layout := ⟨fun lead => -6 ≤ lead && lead < 13, true, .even⟩

def ofMeaning (f : Format) (layout : Layout) : Meaning → Value
  | .finite negative m e => .number (layout.numeral negative (f.shortest layout.tie m e))
  | _ => .null

def Value.float64 (x : Binary64) : Value :=
  ofMeaning .double layout64 x.meaning

def Value.float32 (x : Binary32) : Value :=
  ofMeaning .single layout32 x.meaning

def escape (c : Char) : List Char :=
  if c = '"' then ['\\', '"']
  else if c = '\\' then ['\\', '\\']
  else if c = '\n' then ['\\', 'n']
  else if c = '\r' then ['\\', 'r']
  else if c = '\t' then ['\\', 't']
  else if c = '\x08' then ['\\', 'b']
  else if c = '\x0c' then ['\\', 'f']
  else if c.toNat < 0x20 then
    ['\\', 'u', '0', '0', Text.Hex.digit (c.toNat / 16), Text.Hex.digit c.toNat]
  else [c]

def quote : Option String → List Char
  | some s => '"' :: s.toList.flatMap escape ++ ['"']
  | none => ['"', '\\', 'u', 'd', '8', '0', '0', '"']

mutual

def Value.chars : Value → List Char
  | .null => "null".toList
  | .bool b => (if b then "true" else "false").toList
  | .number n => n.chars
  | .string s => quote s
  | .array [] => ['[', ']']
  | .array (v :: vs) => '[' :: v.chars ++ moreElements vs
  | .object [] => ['\x7b', '\x7d']
  | .object ((k, v) :: ms) => '\x7b' :: quote k ++ ':' :: v.chars ++ moreMembers ms

def moreElements : List Value → List Char
  | [] => [']']
  | v :: vs => ',' :: v.chars ++ moreElements vs

def moreMembers : List (Option String × Value) → List Char
  | [] => ['\x7d']
  | (k, v) :: ms => ',' :: quote k ++ ':' :: v.chars ++ moreMembers ms

end

def Value.render (v : Value) : String :=
  String.ofList v.chars

def newline (depth : Nat) : List Char :=
  '\n' :: List.replicate (2 * depth) ' '

mutual

def Value.prettyChars (depth : Nat) : Value → List Char
  | .array (v :: vs) =>
    '[' :: newline (depth + 1) ++ v.prettyChars (depth + 1) ++ prettyElements depth vs
  | .object ((k, v) :: ms) =>
    '\x7b' :: newline (depth + 1) ++ quote k ++ ':' :: ' ' :: v.prettyChars (depth + 1) ++
      prettyMembers depth ms
  | v => v.chars

def prettyElements (depth : Nat) : List Value → List Char
  | [] => newline depth ++ [']']
  | v :: vs =>
    ',' :: newline (depth + 1) ++ v.prettyChars (depth + 1) ++ prettyElements depth vs

def prettyMembers (depth : Nat) : List (Option String × Value) → List Char
  | [] => newline depth ++ ['\x7d']
  | (k, v) :: ms =>
    ',' :: newline (depth + 1) ++ quote k ++ ':' :: ' ' :: v.prettyChars (depth + 1) ++
      prettyMembers depth ms

end

def Value.pretty (v : Value) : String :=
  String.ofList (v.prettyChars 0)

def nameLe : Option String → Option String → Bool
  | none, _ => true
  | some _, none => false
  | some a, some b => a ≤ b

mutual

def Value.sorted : Value → Value
  | .array vs => .array (sortedElements vs)
  | .object ms => .object ((sortedMembers ms).mergeSort fun a b => nameLe a.1 b.1)
  | v => v

def sortedElements : List Value → List Value
  | [] => []
  | v :: vs => v.sorted :: sortedElements vs

def sortedMembers : List (Option String × Value) → List (Option String × Value)
  | [] => []
  | (k, v) :: ms => (k, v.sorted) :: sortedMembers ms

end

end Telemetry.Json
