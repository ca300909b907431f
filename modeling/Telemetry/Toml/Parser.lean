import Telemetry.Number.Binary
import Telemetry.Text.Character
import Telemetry.Time.Calendar
import Telemetry.Toml.Value

/-! Reading TOML 1.0. -/

namespace Telemetry.Toml

open Number
open Text (isDigit hexValue? expect?)

def depthLimit : Nat := 80

def isBlank (c : Char) : Bool := c = ' ' || c = '\t'

def skipBlanks (cs : List Char) : List Char := cs.dropWhile isBlank

def isCommentChar (c : Char) : Bool := c = '\t' || (' ' ≤ c && c ≤ '~') || 0x80 ≤ c.toNat

def skipTrivia (comment : Bool) : List Char → List Char
  | [] => []
  | '\r' :: '\n' :: cs => skipTrivia false cs
  | c :: cs =>
    if c = '\n' then skipTrivia false cs
    else if comment then (if isCommentChar c then skipTrivia true cs else c :: cs)
    else if c = '#' then skipTrivia true cs
    else if isBlank c then skipTrivia false cs
    else c :: cs

def lineEnd (cs : List Char) : Option (List Char) :=
  let cs := skipBlanks cs
  let cs := match cs with
    | '#' :: cs => cs.dropWhile isCommentChar
    | cs => cs
  match cs with
  | [] => some []
  | '\n' :: cs => some cs
  | '\r' :: '\n' :: cs => some cs
  | _ => none

def scalar? (n : Nat) : Option Char :=
  if n < 0xD800 ∨ (0xE000 ≤ n ∧ n < 0x110000) then some (Char.ofNat n) else none

def hexNumber? (digits : List Char) : Option Nat :=
  digits.foldl (fun n c => do return (← n) * 16 + (← hexValue? c)) (some 0)

def simpleEscape? (c : Char) : Option Char :=
  if c = '"' ∨ c = '\\' then some c
  else if c = 'b' then some '\x08'
  else if c = 't' then some '\t'
  else if c = 'n' then some '\n'
  else if c = 'f' then some '\x0c'
  else if c = 'r' then some '\r'
  else none

def beginsLine : List Char → Bool
  | '\n' :: _ => true
  | '\r' :: '\n' :: _ => true
  | _ => false

def stripLineEnd : List Char → List Char
  | '\n' :: cs => cs
  | '\r' :: '\n' :: cs => cs
  | cs => cs

def basicString (seen : List Char) : List Char → Option (String × List Char)
  | [] => none
  | '"' :: cs => some (String.ofList seen.reverse, cs)
  | '\\' :: 'u' :: a :: b :: c :: d :: cs =>
    match (hexNumber? [a, b, c, d]).bind scalar? with
    | some c => basicString (c :: seen) cs
    | none => none
  | '\\' :: 'U' :: a :: b :: c :: d :: e :: f :: g :: h :: cs =>
    match (hexNumber? [a, b, c, d, e, f, g, h]).bind scalar? with
    | some c => basicString (c :: seen) cs
    | none => none
  | '\\' :: c :: cs =>
    match simpleEscape? c with
    | some c => basicString (c :: seen) cs
    | none => none
  | c :: cs => if isCommentChar c ∧ c ≠ '\\' then basicString (c :: seen) cs else none

def basicLines (skipping : Bool) (seen : List Char) : List Char → Option (String × List Char)
  | [] => none
  | '\r' :: '\n' :: cs => basicLines skipping (if skipping then seen else '\n' :: seen) cs
  | '\n' :: cs => basicLines skipping (if skipping then seen else '\n' :: seen) cs
  | '"' :: '"' :: '"' :: '"' :: '"' :: cs =>
    some (String.ofList ('"' :: '"' :: seen).reverse, cs)
  | '"' :: '"' :: '"' :: '"' :: cs => some (String.ofList ('"' :: seen).reverse, cs)
  | '"' :: '"' :: '"' :: cs => some (String.ofList seen.reverse, cs)
  | '\\' :: 'u' :: a :: b :: c :: d :: cs =>
    match (hexNumber? [a, b, c, d]).bind scalar? with
    | some c => basicLines false (c :: seen) cs
    | none => none
  | '\\' :: 'U' :: a :: b :: c :: d :: e :: f :: g :: h :: cs =>
    match (hexNumber? [a, b, c, d, e, f, g, h]).bind scalar? with
    | some c => basicLines false (c :: seen) cs
    | none => none
  | '\\' :: c :: cs =>
    match simpleEscape? c with
    | some c => basicLines false (c :: seen) cs
    | none => if beginsLine (skipBlanks (c :: cs)) then basicLines true seen (c :: cs) else none
  | c :: cs =>
    if skipping && isBlank c then basicLines true seen cs
    else if isCommentChar c ∧ c ≠ '\\' then basicLines false (c :: seen) cs
    else none

def literalString (seen : List Char) : List Char → Option (String × List Char)
  | [] => none
  | '\'' :: cs => some (String.ofList seen.reverse, cs)
  | c :: cs => if isCommentChar c then literalString (c :: seen) cs else none

def literalLines (seen : List Char) : List Char → Option (String × List Char)
  | [] => none
  | '\r' :: '\n' :: cs => literalLines ('\n' :: seen) cs
  | '\n' :: cs => literalLines ('\n' :: seen) cs
  | '\'' :: '\'' :: '\'' :: '\'' :: '\'' :: cs =>
    some (String.ofList ('\'' :: '\'' :: seen).reverse, cs)
  | '\'' :: '\'' :: '\'' :: '\'' :: cs => some (String.ofList ('\'' :: seen).reverse, cs)
  | '\'' :: '\'' :: '\'' :: cs => some (String.ofList seen.reverse, cs)
  | c :: cs => if isCommentChar c then literalLines (c :: seen) cs else none

def digitRun (ok : Char → Bool) : List Char → List Char × List Char
  | '_' :: c :: cs =>
    if ok c then let (ds, rest) := digitRun ok cs; (c :: ds, rest) else ([], '_' :: c :: cs)
  | c :: cs => if ok c then let (ds, rest) := digitRun ok cs; (c :: ds, rest) else ([], c :: cs)
  | [] => ([], [])

def digitRun1 (ok : Char → Bool) (cs : List Char) : Option (List Char × List Char) :=
  match cs with
  | c :: _ => if ok c then some (digitRun ok cs) else none
  | [] => none

def wholePart (cs : List Char) : Option (List Char × List Char) :=
  match cs with
  | '0' :: cs => some (['0'], cs)
  | cs => digitRun1 isDigit cs

def sign : List Char → Bool × List Char
  | '-' :: cs => (true, cs)
  | '+' :: cs => (false, cs)
  | cs => (false, cs)

def numberOf (base : Nat) (digits : List Char) : Nat :=
  digits.foldl (fun n c => n * base + (hexValue? c).getD 0) 0

def inRange (i : Int) : Bool := -9223372036854775808 ≤ i && i < 9223372036854775808

def radix (base : Nat) (ok : Char → Bool) (cs : List Char) : Option (Value × List Char) := do
  let (digits, rest) ← digitRun1 ok cs
  let i := numberOf base digits
  if inRange i then some (.integer i, rest) else none

def integer : List Char → Option (Value × List Char)
  | '0' :: 'x' :: cs => radix 16 (fun c => (hexValue? c).isSome) cs
  | '0' :: 'o' :: cs => radix 8 (fun c => '0' ≤ c && c ≤ '7') cs
  | '0' :: 'b' :: cs => radix 2 (fun c => c = '0' || c = '1') cs
  | cs => do
    let (negative, cs) := sign cs
    let (digits, rest) ← wholePart cs
    let n : Int := numberOf 10 digits
    let i := if negative then -n else n
    if inRange i then some (.integer i, rest) else none

def overflows (digits : List Char) (places : Nat) (exponent : Int) : Bool :=
  let n := numberOf 10 digits
  let e := exponent - places
  if n = 0 then false
  else if 1000 < e then true
  else if e + digits.length < 0 then false
  else
    Format.double.nearest (n * Nat.pow 10 e.toNat) (Nat.pow 10 (-e).toNat) = Format.double.infinity

def float (cs : List Char) : Option (Value × List Char) := do
  let (negative, cs) := sign cs
  match expect? "inf".toList cs <|> expect? "nan".toList cs with
  | some rest => some (.float, rest)
  | none =>
    let (whole, cs) ← wholePart cs
    let (fraction, cs) ← match cs with
      | '.' :: cs => digitRun1 isDigit cs
      | 'e' :: _ => some ([], cs)
      | 'E' :: _ => some ([], cs)
      | _ => none
    let exponentPart (cs : List Char) : Option (Int × List Char) := do
      let (down, cs) := sign cs
      let (digits, rest) ← digitRun1 isDigit cs
      let n : Int := numberOf 10 digits
      some (if down then -n else n, rest)
    let (exponent, rest) ← match cs with
      | 'e' :: cs => exponentPart cs
      | 'E' :: cs => exponentPart cs
      | cs => some (0, cs)
    if !negative && overflows (whole ++ fraction) fraction.length exponent then none
    else some (.float, rest)

def fixedNumber (width low high : Nat) (cs : List Char) : Option (Nat × List Char) :=
  let digits := cs.take width
  let n := numberOf 10 digits
  if digits.length = width ∧ digits.all isDigit ∧ low ≤ n ∧ n ≤ high then some (n, cs.drop width)
  else none

def expectChar (c : Char) : List Char → Option (List Char)
  | d :: cs => if d = c then some cs else none
  | [] => none

def localDate (cs : List Char) : Option (List Char) := do
  let (year, cs) ← fixedNumber 4 0 9999 cs
  let (month, cs) ← (expectChar '-' cs).bind (fixedNumber 2 1 12)
  let (_, cs) ← (expectChar '-' cs).bind (fixedNumber 2 1 (Time.daysInMonth year month))
  some cs

def localTime (cs : List Char) : Option (List Char) := do
  let (_, cs) ← fixedNumber 2 0 23 cs
  let (_, cs) ← (expectChar ':' cs).bind (fixedNumber 2 0 59)
  let (_, cs) ← (expectChar ':' cs).bind (fixedNumber 2 0 60)
  match cs with
  | '.' :: rest =>
    if rest.head?.any isDigit then some (rest.dropWhile isDigit) else some cs
  | cs => some cs

def offset (cs : List Char) : List Char :=
  let numeric (cs : List Char) : Option (List Char) := do
    let (_, cs) ← fixedNumber 2 0 23 cs
    let (_, cs) ← (expectChar ':' cs).bind (fixedNumber 2 0 59)
    some cs
  match cs with
  | 'Z' :: rest => rest
  | 'z' :: rest => rest
  | '+' :: rest => (numeric rest).getD cs
  | '-' :: rest => (numeric rest).getD cs
  | cs => cs

def datetime (cs : List Char) : Option (Value × List Char) :=
  match localDate cs with
  | some rest =>
    let time := match rest with
      | 'T' :: cs => localTime cs
      | 't' :: cs => localTime cs
      | ' ' :: cs => localTime cs
      | _ => none
    some (.datetime, match time with
      | some rest => offset rest
      | none => rest)
  | none => (localTime cs).map (.datetime, ·)

def isBareKeyChar (c : Char) : Bool :=
  isDigit c || ('a' ≤ c && c ≤ 'z') || ('A' ≤ c && c ≤ 'Z') || c = '-' || c = '_'

def simpleKey : List Char → Option (String × List Char)
  | '"' :: cs => basicString [] cs
  | '\'' :: cs => literalString [] cs
  | cs =>
    let name := cs.takeWhile isBareKeyChar
    if name.isEmpty then none else some (String.ofList name, cs.drop name.length)

def dottedKey : Nat → List Char → Option ((List String × String) × List Char)
  | 0, _ => none
  | parts + 1, cs => do
    let (name, cs) ← simpleKey (skipBlanks cs)
    match skipBlanks cs with
    | '.' :: cs =>
      let ((path, last), cs) ← dottedKey parts cs
      some ((name :: path, last), cs)
    | cs => some (([], name), cs)

def key (cs : List Char) : Option ((List String × String) × List Char) :=
  dottedKey (depthLimit - 1) cs

mutual

/-- A value at the head of the input, inside `depth` brackets and braces. The first argument bounds
the number of elements; twice the length of the input is always enough. -/
def value : Nat → Nat → List Char → Option (Value × List Char)
  | 0, _, _ => none
  | fuel + 1, depth, cs =>
    match cs with
    | '"' :: '"' :: '"' :: cs =>
      (basicLines false [] (stripLineEnd cs)).map fun (s, rest) => (.string s, rest)
    | '"' :: cs => (basicString [] cs).map fun (s, rest) => (.string s, rest)
    | '\'' :: '\'' :: '\'' :: cs =>
      (literalLines [] (stripLineEnd cs)).map fun (s, rest) => (.string s, rest)
    | '\'' :: cs => (literalString [] cs).map fun (s, rest) => (.string s, rest)
    | '[' :: cs =>
      if depth + 1 < depthLimit then
        (elements fuel (depth + 1) cs).map fun (vs, rest) => (.array vs, rest)
      else none
    | '\x7b' :: cs =>
      if depth + 1 < depthLimit then
        match skipBlanks cs with
        | '\x7d' :: cs => some (.table .inlined [], cs)
        | cs => (pairs fuel (depth + 1) [] cs).map fun (ms, rest) => (.table .inlined ms, rest)
      else none
    | 't' :: cs => (expect? "rue".toList cs).map (.boolean true, ·)
    | 'f' :: cs => (expect? "alse".toList cs).map (.boolean false, ·)
    | cs => datetime cs <|> float cs <|> integer cs

def elements : Nat → Nat → List Char → Option (List Value × List Char)
  | 0, _, _ => none
  | fuel + 1, depth, cs =>
    match skipTrivia false cs with
    | ']' :: cs => some ([], cs)
    | cs =>
      match value fuel depth cs with
      | none => none
      | some (v, cs) =>
        match skipTrivia false cs with
        | ',' :: cs => (elements fuel depth cs).map fun (vs, cs) => (v :: vs, cs)
        | ']' :: cs => some ([v], cs)
        | _ => none

def pairs : Nat → Nat → Members → List Char → Option (Members × List Char)
  | 0, _, _, _ => none
  | fuel + 1, depth, seen, cs =>
    match key cs with
    | some ((path, last), '=' :: cs) =>
      match value fuel depth (skipBlanks cs) with
      | none => none
      | some (v, cs) =>
        match insertInline last v path seen with
        | none => none
        | some members =>
          match skipBlanks cs with
          | ',' :: cs => pairs fuel depth members cs
          | '\x7d' :: cs => some (members, cs)
          | _ => none
    | _ => none

end

def statement (fuel : Nat) (d : Document) (cs : List Char) : Option (Document × List Char) := do
  match cs with
  | '[' :: '[' :: cs =>
    let ((path, name), cs) ← key cs
    let rest ← (expect? [']', ']'] cs).bind lineEnd
    return (← d.addElement path name, rest)
  | '[' :: cs =>
    let ((path, name), cs) ← key cs
    let rest ← (expectChar ']' cs).bind lineEnd
    return (← d.addHeader path name, rest)
  | cs =>
    let ((path, name), cs) ← key cs
    let cs ← expectChar '=' cs
    let (v, cs) ← value fuel 0 (skipBlanks cs)
    return (← d.addKey path name v, ← lineEnd cs)

def statements (fuel : Nat) : Nat → Document → List Char → Option Document
  | 0, _, _ => none
  | count + 1, d, cs =>
    match skipTrivia false cs with
    | [] => some d
    | cs =>
      match statement fuel d cs with
      | some (d, rest) => statements fuel count d rest
      | none => none

def skipMark : List Char → List Char
  | '\uFEFF' :: cs => cs
  | cs => cs

def parse (text : String) : Option Members :=
  let cs := skipMark text.toList
  (statements (2 * cs.length + 2) (cs.length + 1) .empty cs).map Document.root

end Telemetry.Toml
