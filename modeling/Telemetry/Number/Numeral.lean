import Telemetry.Number.Shortest

namespace Telemetry.Number

abbrev Digit := Fin 10

structure Numeral where
  negative : Bool
  whole : List Digit
  fraction : List Digit
  exponent : Option (Bool × List Digit)
deriving DecidableEq, Repr

def digitsOf (n : Nat) : List Digit :=
  (Nat.toDigits 10 n).map fun c => Fin.ofNat 10 (c.toNat - 48)

def valueOf (digits : List Digit) : Nat :=
  digits.foldl (fun n d => 10 * n + d.val) 0

def Digit.char (d : Digit) : Char :=
  Char.ofNat (48 + d.val)

namespace Numeral

def ofInt (i : Int) : Numeral :=
  ⟨i < 0, digitsOf i.natAbs, [], none⟩

def chars (n : Numeral) : List Char :=
  (if n.negative then ['-'] else []) ++ n.whole.map Digit.char ++
    (if n.fraction.isEmpty then [] else '.' :: n.fraction.map Digit.char) ++
    match n.exponent with
    | none => []
    | some (negative, digits) => 'e' :: (if negative then '-' else '+') :: digits.map Digit.char

def text (n : Numeral) : String :=
  String.ofList n.chars

end Numeral

structure Layout where
  positional : Int → Bool
  pointZero : Bool
  tie : Tie

def Layout.numeral (layout : Layout) (negative : Bool) (d : Decimal) : Numeral :=
  let digits := digitsOf d.digits
  let lead : Int := digits.length - 1 + d.exponent
  if layout.positional lead then
    if 0 ≤ d.exponent then
      ⟨negative, digits ++ List.replicate d.exponent.toNat 0, if layout.pointZero then [0] else [],
        none⟩
    else if 0 ≤ lead then
      let (whole, fraction) := digits.splitAt (lead.toNat + 1)
      ⟨negative, whole, fraction, none⟩
    else ⟨negative, [0], List.replicate (-lead - 1).toNat 0 ++ digits, none⟩
  else
    ⟨negative, digits.take 1, digits.drop 1, some (lead < 0, digitsOf lead.natAbs)⟩

def Layout.plain : Layout := ⟨fun _ => true, false, .up⟩

def Layout.text (layout : Layout) (f : Format) : Meaning → String
  | .nan => "NaN"
  | .infinite negative => if negative then "-inf" else "inf"
  | .finite negative m e => (layout.numeral negative (f.shortest layout.tie m e)).text

def Binary32.text (x : Binary32) : String :=
  Layout.plain.text .single x.meaning

def Binary64.text (x : Binary64) : String :=
  Layout.plain.text .double x.meaning

end Telemetry.Number
