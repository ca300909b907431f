import Telemetry.Json.Parser
import Telemetry.Number.Scan

/-! Taking typed data out of a document. -/

namespace Telemetry.Json

open Number

variable {α : Type}

namespace Value

def text? : Value → Option String
  | string s => s
  | _ => none

def bool? : Value → Option Bool
  | bool b => some b
  | _ => none

def integer? : Value → Option Int
  | number n => n.word?
  | _ => none

def uint32? (v : Value) : Option UInt32 :=
  (v.integer?.filter fun i => decide (0 ≤ i ∧ i < 4294967296)).map fun i => UInt32.ofNat i.toNat

def uint64? (v : Value) : Option UInt64 :=
  (v.integer?.filter fun i => decide (0 ≤ i)).map fun i => UInt64.ofNat i.toNat

def int32? (v : Value) : Option Int32 :=
  (v.integer?.filter fun i => decide (-2147483648 ≤ i ∧ i < 2147483648)).map Int32.ofInt

def int64? (v : Value) : Option Int64 :=
  (v.integer?.filter fun i => decide (i < 9223372036854775808)).map Int64.ofInt

def float64? : Value → Option Binary64
  | number n => n.binary64?
  | _ => none

def float32? : Value → Option Binary32
  | number n => n.binary32?
  | _ => none

def list? (item : Value → Option α) : Value → Option (List α)
  | array vs => vs.mapM item
  | _ => none

end Value

def member? (members : List (String × Value)) (name : String) : Option (Option Value) :=
  match members.filter (·.1 = name) with
  | [] => some none
  | [(_, v)] => some (some v)
  | _ => none

def namedMembers (members : List (Option String × Value)) : Option (List (String × Value)) :=
  members.mapM fun (k, v) => k.map (·, v)

/-- The values of a record's members in the order of `names`. A record is written as an object, in
which other members may stand as well, or as an array of the values in that same order, in which
only the last ones may be missing. -/
def Value.fields? (names : List String) : Value → Option (List (Option Value))
  | object members => do
    let members ← namedMembers members
    names.mapM (member? members)
  | array vs =>
    if vs.length ≤ names.length then
      some (vs.map some ++ List.replicate (names.length - vs.length) none)
    else none
  | _ => none

def Value.word? (ofName : String → Option α) : Value → Option α
  | string (some s) => ofName s
  | object [(some s, null)] => ofName s
  | _ => none

end Telemetry.Json
