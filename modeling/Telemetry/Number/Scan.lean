import Telemetry.Number.Numeral

/-! Reading a written number as a binary one in two rounded steps: as many leading digits as fit
into 64 bits are rounded to binary, and the result is multiplied or divided by a rounded power of
ten. The two roundings can leave the result one unit away from the nearest value. -/

namespace Telemetry.Number

structure Significand where
  kept : Nat
  exponent : Int
deriving DecidableEq, Repr

namespace Significand

def limit : Nat := UInt64.size

def scanWhole (kept : Nat) : List Digit → Significand
  | [] => ⟨kept, 0⟩
  | d :: ds =>
    if kept * 10 + d.val < limit then scanWhole (kept * 10 + d.val) ds
    else ⟨kept, ds.length + 1⟩

def scanFraction (s : Significand) : List Digit → Significand
  | [] => s
  | d :: ds =>
    if s.kept * 10 + d.val < limit then scanFraction ⟨s.kept * 10 + d.val, s.exponent - 1⟩ ds
    else s

end Significand

def maxPower : Nat := 308

def finiteParts (magnitude : Nat) : Nat × Int :=
  match Format.double.meaning magnitude with
  | .finite _ m e => (m, e)
  | _ => (0, 0)

def timesPower (magnitude k : Nat) : Nat :=
  let (m, e) := finiteParts magnitude
  let (m', e') := finiteParts (Format.double.nearest (Nat.pow 10 k) 1)
  Format.double.ofScaled (m * m') (e + e')

def dividePower (magnitude k : Nat) : Nat :=
  let (m, e) := finiteParts magnitude
  let (m', e') := finiteParts (Format.double.nearest (Nat.pow 10 k) 1)
  Format.double.nearest (m <<< (e - e').toNat) (m' <<< (e' - e).toNat)

def divideDown (magnitude k : Nat) : Nat :=
  if k ≤ maxPower then dividePower magnitude k
  else if magnitude = 0 then 0
  else divideDown (dividePower magnitude maxPower) (k - maxPower)
termination_by k
decreasing_by simp only [maxPower] at *; omega

def Significand.magnitude? (s : Significand) : Option Nat :=
  let start := Format.double.nearest s.kept 1
  if s.kept = 0 then some 0
  else if s.exponent < 0 then some (divideDown start s.exponent.natAbs)
  else if maxPower < s.exponent.natAbs then none
  else
    let scaled := timesPower start s.exponent.natAbs
    if scaled = Format.double.infinity then none else some scaled

def maxExponent : Nat := 2147483647

namespace Numeral

def integer? (n : Numeral) : Option Int :=
  if n.fraction.isEmpty ∧ n.exponent.isNone then
    match n.negative, valueOf n.whole with
    | false, v => some v
    | true, 0 => none
    | true, v => some (-v)
  else none

def word? (n : Numeral) : Option Int :=
  n.integer?.filter fun i => decide (-9223372036854775808 ≤ i ∧ i < 18446744073709551616)

def magnitude? (n : Numeral) : Option Nat :=
  let s := (Significand.scanWhole 0 n.whole).scanFraction n.fraction
  match n.exponent with
  | none => s.magnitude?
  | some (negative, digits) =>
    let power := valueOf digits
    if maxExponent < power then (if s.kept = 0 ∨ negative then some 0 else none)
    else Significand.magnitude? ⟨s.kept, s.exponent + if negative then -(power : Int) else power⟩

def binary64? (n : Numeral) : Option Binary64 :=
  match n.word? with
  | some i => some (.ofInt i)
  | none => n.magnitude?.map fun m => ⟨UInt64.ofNat (Format.double.withSign n.negative m)⟩

def binary32? (n : Numeral) : Option Binary32 :=
  match n.word? with
  | some i => some (.ofInt i)
  | none => n.binary64?.map (·.toBinary32)

end Numeral

end Telemetry.Number
