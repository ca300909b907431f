import Telemetry.Wire.DecodeError
import Telemetry.Wire.Field
import Telemetry.Wire.Varint

/-! Reading a message off a byte stream, with no knowledge of what its fields mean. -/

namespace Telemetry.Wire

def littleEndian (bytes : List UInt8) : Nat :=
  bytes.foldr (fun b n => b.toNat + 256 * n) 0

def splitExact? (n : Nat) (bytes : List UInt8) : Option (List UInt8 × List UInt8) :=
  let (taken, rest) := bytes.splitAt n
  if taken.length = n then some (taken, rest) else none

def readVarint (offset : Nat) (bytes : List UInt8) :
    Except DecodeError (UInt64 × Nat × List UInt8) :=
  match Varint.read bytes with
  | .ok r => .ok r
  | .error .endless => .error (.malformedVarint offset)
  | .error .unfinished => .error (.truncatedVarint offset)

def Payload.read (field : UInt32) (offset : Nat) (bytes : List UInt8) :
    WireType → Except DecodeError (Payload × Nat × List UInt8)
  | .varint =>
    match readVarint offset bytes with
    | .ok (v, n, rest) => .ok (.varint v, n, rest)
    | .error e => .error e
  | .fixed64 =>
    match splitExact? 8 bytes with
    | some (raw, rest) => .ok (.fixed64 (UInt64.ofNat (littleEndian raw)), 8, rest)
    | none => .error (.truncatedFixed64 field offset)
  | .bytes =>
    match readVarint offset bytes with
    | .ok (declared, n, rest) =>
      match splitExact? declared.toNat rest with
      | some (raw, rest) => .ok (.bytes raw, n + declared.toNat, rest)
      | none => .error (.truncatedBytes field declared rest.length (offset + n))
    | .error e => .error e
  | .fixed32 =>
    match splitExact? 4 bytes with
    | some (raw, rest) => .ok (.fixed32 (UInt32.ofNat (littleEndian raw)), 4, rest)
    | none => .error (.truncatedFixed32 field offset)

def Field.read (offset : Nat) (bytes : List UInt8) :
    Except DecodeError (Field × Nat × List UInt8) :=
  match readVarint offset bytes with
  | .error e => .error e
  | .ok (tag, n, rest) =>
    let number := (tag >>> 3).toUInt32
    let code := (tag &&& 7).toNat
    match WireType.ofCode? code with
    | none => .error (.unknownWireType number code offset)
    | some t =>
      match Payload.read number (offset + n) rest t with
      | .ok (payload, k, rest) => .ok (⟨number, payload⟩, n + k, rest)
      | .error e => .error e

theorem splitExact?_rest_length {n : Nat} {bytes raw rest : List UInt8}
    (h : splitExact? n bytes = some (raw, rest)) : rest.length ≤ bytes.length := by
  simp only [splitExact?, List.splitAt_eq] at h
  split at h
  · simp only [Option.some.injEq, Prod.mk.injEq] at h
    simp [← h.2]
  · simp at h

theorem readVarint_rest_length {offset n : Nat} {bytes rest : List UInt8} {v : UInt64}
    (h : readVarint offset bytes = .ok (v, n, rest)) : rest.length < bytes.length := by
  unfold readVarint at h
  split at h
  next r hr =>
    simp only [Except.ok.injEq] at h
    exact Varint.read_rest_length (h ▸ hr)
  all_goals simp at h

theorem Payload.read_rest_length {field : UInt32} {offset n : Nat} {bytes rest : List UInt8}
    {t : WireType} {p : Payload} (h : Payload.read field offset bytes t = .ok (p, n, rest)) :
    rest.length ≤ bytes.length := by
  cases t <;> simp only [Payload.read] at h <;> split at h <;> try simp at h
  next hv => exact h.2.2 ▸ Nat.le_of_lt (readVarint_rest_length hv)
  next hs => exact h.2.2 ▸ splitExact?_rest_length hs
  next hv =>
    split at h <;> simp at h
    next hs =>
      exact h.2.2 ▸ Nat.le_trans (splitExact?_rest_length hs)
        (Nat.le_of_lt (readVarint_rest_length hv))
  next hs => exact h.2.2 ▸ splitExact?_rest_length hs

theorem Field.read_rest_length {offset n : Nat} {bytes rest : List UInt8} {f : Field}
    (h : Field.read offset bytes = .ok (f, n, rest)) : rest.length < bytes.length := by
  unfold Field.read at h
  split at h
  · simp at h
  next hv =>
    simp only at h
    split at h
    · simp at h
    · split at h
      next hp =>
        simp only [Except.ok.injEq, Prod.mk.injEq] at h
        exact h.2.2 ▸ Nat.lt_of_le_of_lt (Payload.read_rest_length hp) (readVarint_rest_length hv)
      · simp at h

namespace Message

def decodeFrom (offset : Nat) (seen : List Field) (bytes : List UInt8) :
    Except DecodeError Message :=
  if bytes.isEmpty then .ok seen.reverse
  else
    match _h : Field.read offset bytes with
    | .ok (f, n, rest) => decodeFrom (offset + n) (f :: seen) rest
    | .error e => .error e
termination_by bytes.length
decreasing_by exact Field.read_rest_length _h

def decode (bytes : List UInt8) : Except DecodeError Message :=
  decodeFrom 0 [] bytes

end Message

end Telemetry.Wire
