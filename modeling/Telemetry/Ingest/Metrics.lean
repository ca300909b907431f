import Telemetry.Number.Numeral
import Telemetry.Resolution.Basic

/-! What is counted while batches are taken in, and the text that a monitoring system collects. -/

namespace Telemetry.Ingest

open Number Resolution

structure Histogram where
  counts : List (Nat × UInt64)
  sum : Binary64
  count : UInt64
deriving DecidableEq

namespace Histogram

def empty (bounds : List Nat) : Histogram := ⟨bounds.map (·, 0), .zero, 0⟩

def place (n : Nat) : List (Nat × UInt64) → List (Nat × UInt64)
  | [] => []
  | (bound, count) :: rest =>
    if n ≤ bound then (bound, count + 1) :: rest else (bound, count) :: place n rest

def observe (h : Histogram) (n : Nat) : Histogram :=
  ⟨place n h.counts, h.sum.add (.ofInt n), h.count + 1⟩

def cumulative (total : UInt64) : List (Nat × UInt64) → List (Nat × UInt64)
  | [] => []
  | (bound, count) :: rest => (bound, total + count) :: cumulative (total + count) rest

end Histogram

structure Metrics where
  batchesDecoded : UInt64
  decodeErrors : Table String UInt64
  stored : UInt64
  skipped : Table String UInt64
  batchSize : Histogram

namespace Metrics

def sizeBounds : List Nat := (List.range 9).map fun n => 16 <<< (2 * n)

def empty : Metrics := ⟨0, ∅, 0, ∅, .empty sizeBounds⟩

def bump (t : Table String UInt64) (label : String) (n : UInt64) : Table String UInt64 :=
  t.insert label ((t.get? label).getD 0 + n)

def observeBatchSize (m : Metrics) (bytes : Nat) : Metrics :=
  { m with batchSize := m.batchSize.observe bytes }

def countDecoded (m : Metrics) : Metrics := { m with batchesDecoded := m.batchesDecoded + 1 }

def countDecodeError (m : Metrics) (kind : String) : Metrics :=
  { m with decodeErrors := bump m.decodeErrors kind 1 }

def addStored (m : Metrics) (n : Nat) : Metrics := { m with stored := m.stored + UInt64.ofNat n }

def addSkipped (m : Metrics) (reason : SkipReason) (n : Nat) : Metrics :=
  if 0 < n then { m with skipped := bump m.skipped reason.name (UInt64.ofNat n) } else m

end Metrics

end Telemetry.Ingest
