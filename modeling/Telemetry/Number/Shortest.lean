import Telemetry.Number.Binary

/-! The fewest decimal digits that still single out a binary value: of all decimals that round to
it, one with the least number of digits, and of those the nearest. -/

namespace Telemetry.Number

structure Decimal where
  digits : Nat
  exponent : Int
deriving DecidableEq, Repr

inductive Tie where
  | even
  | up
deriving DecidableEq, Repr

def compareScaled (a : Nat) (i : Int) (b : Nat) (j : Int) : Ordering :=
  compare ((a * Nat.pow 10 i.toNat) <<< (-j).toNat) ((b * Nat.pow 10 (-i).toNat) <<< j.toNat)

/-- Whether the decimal lies among the reals that round to `m * 2 ^ e`. Below a power of two the
neighbours are twice as dense, so the interval is narrower on that side. -/
def Decimal.roundsTo (d : Decimal) (narrow : Bool) (m : Nat) (e : Int) : Bool :=
  let low := compareScaled d.digits d.exponent (4 * m - if narrow then 1 else 2) (e - 2)
  let high := compareScaled d.digits d.exponent (4 * m + 2) (e - 2)
  let closed := m % 2 == 0
  (low == .gt || (closed && low == .eq)) && (high == .lt || (closed && high == .eq))

def leadingExponent (m : Nat) (e : Int) : Int :=
  let guess := (((Nat.log2 m : Int) + e) * 30103).fdiv 100000
  if compareScaled 1 guess m e == .gt then guess - 1
  else if compareScaled 1 (guess + 1) m e == .gt then guess
  else guess + 1

def floorUnits (m : Nat) (e grid : Int) : Nat :=
  (m <<< e.toNat) * Nat.pow 10 (-grid).toNat / (Nat.pow 10 grid.toNat <<< (-e).toNat)

def candidate? (tie : Tie) (narrow : Bool) (m : Nat) (e grid : Int) : Option Decimal :=
  let below : Decimal := ⟨floorUnits m e grid, grid⟩
  let above : Decimal := ⟨below.digits + 1, grid⟩
  match below.roundsTo narrow m e, above.roundsTo narrow m e with
  | false, false => none
  | true, false => some below
  | false, true => some above
  | true, true =>
    match compareScaled (below.digits + above.digits) grid (2 * m) e with
    | .lt => some above
    | .gt => some below
    | .eq =>
      match tie with
      | .even => some (if below.digits % 2 = 0 then below else above)
      | .up => some above

def Decimal.strip (d : Decimal) : Decimal :=
  if 0 < d.digits ∧ d.digits % 10 = 0 then Decimal.strip ⟨d.digits / 10, d.exponent + 1⟩ else d
termination_by d.digits
decreasing_by omega

def shortest (tie : Tie) (narrow : Bool) (m : Nat) (e : Int) : Decimal :=
  let top := leadingExponent m e
  match (List.range 17).findSome? fun (n : Nat) => candidate? tie narrow m e (top - n) with
  | some d => d.strip
  | none => Decimal.strip ⟨(m <<< e.toNat) * Nat.pow 5 (-e).toNat, min e 0⟩

def Format.shortest (f : Format) (tie : Tie) (m : Nat) (e : Int) : Decimal :=
  if m = 0 then ⟨0, 0⟩
  else Number.shortest tie (m = 1 <<< f.fraction ∧ f.minExponent < e) m e

end Telemetry.Number
