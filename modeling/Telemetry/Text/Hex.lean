import Telemetry.Text.Character
import Telemetry.Text.Quoted

namespace Telemetry.Text.Hex

def digit (n : Nat) : Char := Nat.digitChar (n % 16)

def encode (bytes : List UInt8) : String :=
  String.ofList (bytes.flatMap fun b => [digit (b.toNat / 16), digit b.toNat])

def digit? (b : UInt8) : Option UInt8 :=
  (hexValue? (Char.ofNat b.toNat)).map UInt8.ofNat

inductive Defect where
  | oddLength
  | notADigit (byte : UInt8) (position : Nat)
deriving DecidableEq, Repr

def Defect.message : Defect → String
  | oddLength => "Odd number of digits"
  | notADigit byte position =>
    "Invalid character " ++ quotedChar (Char.ofNat byte.toNat) ++ " at position " ++
      toString position

def decodeFrom (position : Nat) (seen : List UInt8) : List UInt8 → Except Defect (List UInt8)
  | [] => .ok seen.reverse
  | [_] => .error .oddLength
  | high :: low :: rest =>
    match digit? high, digit? low with
    | none, _ => .error (.notADigit high position)
    | some _, none => .error (.notADigit low (position + 1))
    | some h, some l => decodeFrom (position + 2) ((h * 16 + l) :: seen) rest

def decode (text : List UInt8) : Except Defect (List UInt8) :=
  if text.length % 2 = 0 then decodeFrom 0 [] text else .error .oddLength

end Telemetry.Text.Hex
