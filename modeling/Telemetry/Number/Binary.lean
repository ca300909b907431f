/-! Binary floating-point numbers as bit patterns, with conversions computed exactly and rounded
once to the nearest value, ties to the even significand. -/

namespace Telemetry.Number

structure Format where
  fraction : Nat
  exponent : Nat

def Format.single : Format := ⟨23, 8⟩

def Format.double : Format := ⟨52, 11⟩

namespace Format

variable (f : Format)

def minExponent : Int :=
  2 - (1 <<< (f.exponent - 1) : Nat) - f.fraction

def signBit : Nat :=
  1 <<< (f.fraction + f.exponent)

def infinity : Nat :=
  (1 <<< f.exponent - 1) <<< f.fraction

def withSign (negative : Bool) (magnitude : Nat) : Nat :=
  if negative then f.signBit + magnitude else magnitude

end Format

inductive Meaning where
  | nan
  | infinite (negative : Bool)
  | finite (negative : Bool) (significand : Nat) (exponent : Int)
deriving DecidableEq, Repr

def Format.meaning (f : Format) (bits : Nat) : Meaning :=
  let negative := bits / f.signBit % 2 == 1
  let magnitude := bits % f.signBit
  let biased := magnitude >>> f.fraction
  let fraction := magnitude % (1 <<< f.fraction)
  if magnitude = f.infinity then .infinite negative
  else if f.infinity < magnitude then .nan
  else if biased = 0 then .finite negative fraction f.minExponent
  else .finite negative (1 <<< f.fraction + fraction) (f.minExponent + biased - 1)

def roundHalfEven (num den : Nat) : Nat :=
  let q := num / den
  let r := num % den
  if 2 * r < den then q
  else if den < 2 * r then q + 1
  else q + q % 2

def logRatio (num den : Nat) : Int :=
  let k : Int := (Nat.log2 num : Int) - Nat.log2 den
  if num <<< (-k).toNat < den <<< k.toNat then k - 1 else k

/-- The pattern without its sign nearest to `num / den`. Counting in units of the last place runs on
from the subnormal numbers through every binade, so one formula serves all of them. -/
def Format.nearest (f : Format) (num den : Nat) : Nat :=
  if num = 0 then 0
  else
    let e := max f.minExponent (logRatio num den - f.fraction)
    let units := roundHalfEven (num <<< (-e).toNat) (den <<< e.toNat)
    min f.infinity ((e - f.minExponent).toNat <<< f.fraction + units)

def Format.ofInt (f : Format) (i : Int) : Nat :=
  f.withSign (i < 0) (f.nearest i.natAbs 1)

def Format.ofScaled (f : Format) (significand : Nat) (exponent : Int) : Nat :=
  f.nearest (significand <<< exponent.toNat) (1 <<< (-exponent).toNat)

def Format.convert (source target : Format) (bits : Nat) : Nat :=
  match source.meaning bits with
  | .nan => target.withSign (bits / source.signBit % 2 == 1)
      (target.infinity + 1 <<< (target.fraction - 1))
  | .infinite negative => target.withSign negative target.infinity
  | .finite negative m e => target.withSign negative (target.ofScaled m e)

structure Binary32 where
  bits : UInt32
deriving DecidableEq, Repr

structure Binary64 where
  bits : UInt64
deriving DecidableEq, Repr

namespace Binary32

def meaning (x : Binary32) : Meaning :=
  Format.single.meaning x.bits.toNat

def ofInt (i : Int) : Binary32 :=
  ⟨UInt32.ofNat (Format.single.ofInt i)⟩

def isNaN (x : Binary32) : Bool :=
  x.meaning == .nan

end Binary32

namespace Binary64

def meaning (x : Binary64) : Meaning :=
  Format.double.meaning x.bits.toNat

def ofInt (i : Int) : Binary64 :=
  ⟨UInt64.ofNat (Format.double.ofInt i)⟩

def ofBinary32 (x : Binary32) : Binary64 :=
  ⟨UInt64.ofNat (Format.single.convert .double x.bits.toNat)⟩

def toBinary32 (x : Binary64) : Binary32 :=
  ⟨UInt32.ofNat (Format.double.convert .single x.bits.toNat)⟩

def isNaN (x : Binary64) : Bool :=
  x.meaning == .nan

def add (x y : Binary64) : Binary64 :=
  match x.meaning, y.meaning with
  | .finite false m e, .finite false m' e' =>
    let low := min e e'
    ⟨UInt64.ofNat (Format.double.ofScaled
      (m <<< (e - low).toNat + m' <<< (e' - low).toNat) low)⟩
  | _, _ => ⟨0x7FF8000000000000⟩

def zero : Binary64 := ⟨0⟩

def one : Binary64 := ⟨0x3FF0000000000000⟩

end Binary64

end Telemetry.Number
