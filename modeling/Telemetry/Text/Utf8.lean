/-! UTF-8 as the Unicode standard's table of well-formed byte sequences defines it. -/

namespace Telemetry.Text.Utf8

inductive Defect where
  | invalid (index length : Nat)
  | incomplete (index : Nat)
deriving DecidableEq, Repr

def Defect.message : Defect → String
  | .invalid index length =>
    "invalid utf-8 sequence of " ++ toString length ++ " bytes from index " ++ toString index
  | .incomplete index => "incomplete utf-8 byte sequence from index " ++ toString index

def lead (b : UInt8) : Option (Nat × UInt8 × UInt8) :=
  if b < 0x80 then some (0, 0, 0)
  else if 0xC2 ≤ b ∧ b ≤ 0xDF then some (1, 0x80, 0xBF)
  else if b = 0xE0 then some (2, 0xA0, 0xBF)
  else if b = 0xED then some (2, 0x80, 0x9F)
  else if 0xE1 ≤ b ∧ b ≤ 0xEF then some (2, 0x80, 0xBF)
  else if b = 0xF0 then some (3, 0x90, 0xBF)
  else if b = 0xF4 then some (3, 0x80, 0x8F)
  else if 0xF1 ≤ b ∧ b ≤ 0xF3 then some (3, 0x80, 0xBF)
  else none

inductive Step where
  | char (code length : Nat)
  | invalid (length : Nat)
  | incomplete
deriving DecidableEq, Repr

def continuation (code seen count : Nat) (lo hi : UInt8) : List UInt8 → Step
  | [] => if count = 0 then .char code seen else .incomplete
  | b :: bytes =>
    match count with
    | 0 => .char code seen
    | count + 1 =>
      if lo ≤ b ∧ b ≤ hi then
        continuation (code * 64 + b.toNat % 64) (seen + 1) count 0x80 0xBF bytes
      else .invalid seen

def step (b : UInt8) (bytes : List UInt8) : Step :=
  match lead b with
  | none => .invalid 1
  | some (0, _, _) => .char b.toNat 1
  | some (1, lo, hi) => continuation (b.toNat % 32) 1 1 lo hi bytes
  | some (2, lo, hi) => continuation (b.toNat % 16) 1 2 lo hi bytes
  | some (count, lo, hi) => continuation (b.toNat % 8) 1 count lo hi bytes

def decodeFrom (index : Nat) (seen : List Char) : List UInt8 → Except Defect (List Char)
  | [] => .ok seen.reverse
  | b :: bytes =>
    match step b bytes with
    | .char code length =>
      decodeFrom (index + length) (Char.ofNat code :: seen) (bytes.drop (length - 1))
    | .invalid length => .error (.invalid index length)
    | .incomplete => .error (.incomplete index)
termination_by bytes => bytes.length
decreasing_by simp only [List.length_drop, List.length_cons]; omega

def decode (bytes : List UInt8) : Except Defect String :=
  match decodeFrom 0 [] bytes with
  | .ok chars => .ok (String.ofList chars)
  | .error d => .error d

def replacement : Char := '\uFFFD'

def decodeLossyFrom (seen : List Char) : List UInt8 → List Char
  | [] => seen.reverse
  | b :: bytes =>
    match step b bytes with
    | .char code length => decodeLossyFrom (Char.ofNat code :: seen) (bytes.drop (length - 1))
    | .invalid length => decodeLossyFrom (replacement :: seen) (bytes.drop (length - 1))
    | .incomplete => (replacement :: seen).reverse
termination_by bytes => bytes.length
decreasing_by all_goals simp only [List.length_drop, List.length_cons]; omega

def decodeLossy (bytes : List UInt8) : String :=
  String.ofList (decodeLossyFrom [] bytes)

def encode (s : String) : List UInt8 :=
  s.toList.flatMap String.utf8EncodeChar

end Telemetry.Text.Utf8
