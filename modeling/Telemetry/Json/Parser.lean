import Telemetry.Json.Value
import Telemetry.Text.Character

/-! Reading JSON documents. -/

namespace Telemetry.Json

open Number
open Text (hexValue? expect?)

def isBlank (c : Char) : Bool :=
  c = ' ' || c = '\n' || c = '\t' || c = '\r'

def skipBlanks (cs : List Char) : List Char :=
  cs.dropWhile isBlank

inductive Piece where
  | char (c : Char)
  | unit (n : Nat)

def simpleEscape? (c : Char) : Option Char :=
  if c = '"' ∨ c = '\\' ∨ c = '/' then some c
  else if c = 'b' then some '\x08'
  else if c = 'f' then some '\x0c'
  else if c = 'n' then some '\n'
  else if c = 'r' then some '\r'
  else if c = 't' then some '\t'
  else none

def pieces (seen : List Piece) : List Char → Option (List Piece × List Char)
  | [] => none
  | '"' :: cs => some (seen.reverse, cs)
  | '\\' :: 'u' :: a :: b :: c :: d :: cs =>
    match hexValue? a, hexValue? b, hexValue? c, hexValue? d with
    | some a, some b, some c, some d =>
      pieces (.unit (((a * 16 + b) * 16 + c) * 16 + d) :: seen) cs
    | _, _, _, _ => none
  | '\\' :: c :: cs =>
    match simpleEscape? c with
    | some c => pieces (.char c :: seen) cs
    | none => none
  | c :: cs => if c.toNat < 0x20 ∨ c = '\\' then none else pieces (.char c :: seen) cs

def isHighSurrogate (n : Nat) : Bool := 0xD800 ≤ n && n < 0xDC00

def isLowSurrogate (n : Nat) : Bool := 0xDC00 ≤ n && n < 0xE000

def assemble (seen : List Char) : List Piece → Option (List Char)
  | [] => some seen.reverse
  | .char c :: ps => assemble (c :: seen) ps
  | .unit n :: .unit m :: ps =>
    if isHighSurrogate n then
      if isLowSurrogate m then
        assemble (Char.ofNat (0x10000 + (n - 0xD800) * 0x400 + (m - 0xDC00)) :: seen) ps
      else none
    else if isLowSurrogate n then none
    else assemble (Char.ofNat n :: seen) (.unit m :: ps)
  | .unit n :: ps =>
    if isHighSurrogate n ∨ isLowSurrogate n then none else assemble (Char.ofNat n :: seen) ps

def quoted (cs : List Char) : Option (Option String × List Char) :=
  (pieces [] cs).map fun (ps, rest) => ((assemble [] ps).map String.ofList, rest)

def digit? (c : Char) : Option Digit :=
  if h : 48 ≤ c.toNat ∧ c.toNat ≤ 57 then some ⟨c.toNat - 48, by omega⟩ else none

def digits : List Char → List Digit × List Char
  | [] => ([], [])
  | c :: cs =>
    match digit? c with
    | some d => let (ds, rest) := digits cs; (d :: ds, rest)
    | none => ([], c :: cs)

def digits1 (cs : List Char) : Option (List Digit × List Char) :=
  match digits cs with
  | ([], _) => none
  | r => some r

def whole (cs : List Char) : Option (List Digit × List Char) :=
  match digits1 cs with
  | some (0 :: _ :: _, _) => none
  | r => r

def fraction : List Char → Option (List Digit × List Char)
  | '.' :: cs => digits1 cs
  | cs => some ([], cs)

def sign : List Char → Bool × List Char
  | '-' :: cs => (true, cs)
  | '+' :: cs => (false, cs)
  | cs => (false, cs)

def exponent (cs : List Char) : Option (Option (Bool × List Digit) × List Char) :=
  match cs with
  | c :: rest =>
    if c = 'e' ∨ c = 'E' then
      let (negative, rest) := sign rest
      (digits1 rest).map fun (ds, rest) => (some (negative, ds), rest)
    else some (none, cs)
  | [] => some (none, [])

def numeral (cs : List Char) : Option (Numeral × List Char) := do
  let (negative, cs) := match cs with
    | '-' :: cs => (true, cs)
    | cs => (false, cs)
  let (w, cs) ← whole cs
  let (f, cs) ← fraction cs
  let (e, cs) ← exponent cs
  return (⟨negative, w, f, e⟩, cs)

mutual

/-- A value at the head of the input. The first argument bounds the nesting and the number of
elements; twice the length of the input is always enough. -/
def value : Nat → List Char → Option (Value × List Char)
  | 0, _ => none
  | fuel + 1, cs =>
    match skipBlanks cs with
    | 'n' :: cs => (expect? "ull".toList cs).map (.null, ·)
    | 't' :: cs => (expect? "rue".toList cs).map (.bool true, ·)
    | 'f' :: cs => (expect? "alse".toList cs).map (.bool false, ·)
    | '"' :: cs => (quoted cs).map fun (s, cs) => (.string s, cs)
    | '[' :: cs =>
      match skipBlanks cs with
      | ']' :: cs => some (.array [], cs)
      | cs => (elements fuel cs).map fun (vs, cs) => (.array vs, cs)
    | '\x7b' :: cs =>
      match skipBlanks cs with
      | '\x7d' :: cs => some (.object [], cs)
      | cs => (members fuel cs).map fun (ms, cs) => (.object ms, cs)
    | cs => (numeral cs).map fun (n, cs) => (.number n, cs)

def elements : Nat → List Char → Option (List Value × List Char)
  | 0, _ => none
  | fuel + 1, cs =>
    match value fuel cs with
    | none => none
    | some (v, cs) =>
      match skipBlanks cs with
      | ',' :: cs => (elements fuel cs).map fun (vs, cs) => (v :: vs, cs)
      | ']' :: cs => some ([v], cs)
      | _ => none

def members : Nat → List Char → Option (List (Option String × Value) × List Char)
  | 0, _ => none
  | fuel + 1, cs =>
    match skipBlanks cs with
    | '"' :: cs =>
      match quoted cs with
      | none => none
      | some (k, cs) =>
        match skipBlanks cs with
        | ':' :: cs =>
          match value fuel cs with
          | none => none
          | some (v, cs) =>
            match skipBlanks cs with
            | ',' :: cs => (members fuel cs).map fun (ms, cs) => ((k, v) :: ms, cs)
            | '\x7d' :: cs => some ([(k, v)], cs)
            | _ => none
        | _ => none
    | _ => none

end

def parse (text : String) : Option Value :=
  let cs := text.toList
  match value (2 * cs.length + 2) cs with
  | some (v, rest) => if (skipBlanks rest).isEmpty then some v else none
  | none => none

end Telemetry.Json
