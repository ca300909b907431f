import Telemetry.Json.Shape
import Telemetry.Text.Character
import Telemetry.Time.Instant

/-! Dates and times as text. What is written follows RFC 3339 but for years of more than four digits
or below zero, which get a sign. What is read is more liberal: blanks may stand around the
separators, numbers may lack leading zeros, and the offset may be given in several ways. -/

namespace Telemetry.Time

open Text

def padded (width n : Nat) : List Char :=
  let digits := Nat.toDigits 10 n
  List.replicate (width - digits.length) '0' ++ digits

def yearChars (y : Int) : List Char :=
  if 0 ≤ y ∧ y ≤ 9999 then padded 4 y.toNat
  else (if y < 0 then '-' else '+') :: padded 4 y.natAbs

def fractionChars (nanos : Nat) : List Char :=
  if nanos = 0 then []
  else if nanos % 1000000 = 0 then '.' :: padded 3 (nanos / 1000000)
  else if nanos % 1000 = 0 then '.' :: padded 6 (nanos / 1000)
  else '.' :: padded 9 nanos

namespace Instant

def localChars (t : Instant) : List Char :=
  let total := t.nanos / nanosPerSecond
  let date := Date.ofDays (total / 86400)
  let second := (total % 86400).toNat
  yearChars date.year ++ '-' :: padded 2 date.month ++ '-' :: padded 2 date.day ++
    'T' :: padded 2 (second / 3600) ++ ':' :: padded 2 (second / 60 % 60) ++
    ':' :: padded 2 (second % 60 + if t.leap then 1 else 0) ++
    fractionChars (t.nanos % nanosPerSecond).toNat

def text (t : Instant) : String :=
  String.ofList (t.localChars ++ ['Z'])

def offsetText (t : Instant) : String :=
  String.ofList (t.localChars ++ "+00:00".toList)

end Instant

def number (digits : List Char) : Nat :=
  digits.foldl (fun n c => 10 * n + (c.toNat - 48)) 0

def field (width : Nat) (cs : List Char) : Option (Nat × List Char) :=
  let cs := trimStart cs
  let digits := (cs.take width).takeWhile isDigit
  if digits.isEmpty then none else some (number digits, cs.drop digits.length)

def yearField (cs : List Char) : Option (Int × List Char) :=
  let signed (cs : List Char) : Option (Nat × List Char) :=
    let digits := cs.takeWhile isDigit
    if digits.isEmpty then none else some (number digits, cs.drop digits.length)
  match trimStart cs with
  | '-' :: cs => (signed cs).map fun (y, cs) => (-y, cs)
  | '+' :: cs => (signed cs).map fun (y, cs) => (y, cs)
  | cs => (field 4 cs).map fun (y, cs) => (y, cs)

def separator (c : Char) (cs : List Char) : Option (List Char) :=
  match trimStart cs with
  | d :: cs => if d = c then some cs else none
  | [] => none

def fractionField : List Char → Option (Nat × List Char)
  | '.' :: cs =>
    let digits := cs.takeWhile isDigit
    if digits.isEmpty then none
    else
      let kept := digits.take 9
      some (number kept * Nat.pow 10 (9 - kept.length), cs.drop digits.length)
  | cs => some (0, cs)

def twoDigits : List Char → Option (Nat × List Char)
  | a :: b :: cs => if isDigit a ∧ isDigit b then some (number [a, b], cs) else none
  | _ => none

def offsetField (cs : List Char) : Option (Int × List Char) :=
  match cs with
  | [] => none
  | c :: rest =>
    if (cs.take 3).map Char.toUpper = ['U', 'T', 'C'] then some (0, cs.drop 3)
    else if c = 'z' ∨ c = 'Z' then some (0, rest)
    else if c = '+' ∨ c = '-' ∨ c = '\u2212' then do
      let (hours, rest) ← twoDigits rest
      let (minutes, rest) ← twoDigits (rest.dropWhile fun c => c = ':' || isBlank c)
      let seconds : Int := hours * 3600 + minutes * 60
      if minutes < 60 ∧ seconds < 86400 then
        some (if c = '+' then seconds else -seconds, rest)
      else none
    else none

def Instant.ofLocal? (date : Date) (hour minute second nanos : Nat) (offset : Int) :
    Option Instant :=
  let leap := second == 60
  let total := date.toDays * 86400 + hour * 3600 + minute * 60 + (if leap then 59 else second) -
    offset
  let n := total * nanosPerSecond + nanos
  if date.Valid ∧ firstYear ≤ date.year ∧ date.year ≤ lastYear ∧ hour < 24 ∧ minute < 60 ∧
      second ≤ 60 then
    if h : earliest ≤ n ∧ n ≤ latest then some ⟨n, leap, h.1, h.2⟩ else none
  else none

def Instant.ofChars? (cs : List Char) : Option Instant := do
  let (year, cs) ← yearField cs
  let (month, cs) ← (separator '-' cs).bind (field 2)
  let (day, cs) ← (separator '-' cs).bind (field 2)
  let cs ← match cs with
    | c :: cs => if c = 't' ∨ c = 'T' ∨ c = ' ' then some cs else none
    | [] => none
  let (hour, cs) ← field 2 cs
  let (minute, cs) ← (separator ':' cs).bind (field 2)
  let (second, cs) ← (separator ':' cs).bind (field 2)
  let (nanos, cs) ← fractionField cs
  let (offset, cs) ← offsetField (trimStart cs)
  if (trimStart cs).isEmpty then
    Instant.ofLocal? ⟨year, month, day⟩ hour minute second nanos offset
  else none

def Instant.ofText? (s : String) : Option Instant :=
  Instant.ofChars? s.toList

def Instant.toJson (t : Instant) : Json.Value := .text t.text

def Instant.ofJson? (j : Json.Value) : Option Instant := j.text?.bind Instant.ofText?

end Telemetry.Time
