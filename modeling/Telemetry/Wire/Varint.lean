/-! Base-128 varints: seven bits a byte, lowest first, the high bit set on all bytes but the last.
-/

namespace Telemetry.Wire.Varint

def maxLength : Nat := 10

inductive Defect where
  | endless
  | unfinished
deriving DecidableEq, Repr

def encodeNat (n : Nat) : List UInt8 :=
  if n < 128 then [UInt8.ofNat n] else UInt8.ofNat (n % 128 + 128) :: encodeNat (n / 128)

def encode (v : UInt64) : List UInt8 :=
  encodeNat v.toNat

def encodedLength (v : UInt64) : Nat :=
  (Nat.log2 (v.toNat ||| 1) + 7) / 7

def value (digits : List UInt8) : Nat :=
  digits.foldr (fun b n => b.toNat % 128 + 128 * n) 0

def split : Nat → List UInt8 → Except Defect (List UInt8 × List UInt8)
  | 0, _ => .error .endless
  | _ + 1, [] => .error .unfinished
  | room + 1, b :: bytes =>
    if b < 128 then .ok ([b], bytes)
    else match split room bytes with
      | .ok (digits, rest) => .ok (b :: digits, rest)
      | .error d => .error d

def read (bytes : List UInt8) : Except Defect (UInt64 × Nat × List UInt8) :=
  match split maxLength bytes with
  | .ok (digits, rest) => .ok (UInt64.ofNat (value digits), digits.length, rest)
  | .error d => .error d

theorem split_append {room : Nat} {bytes digits rest : List UInt8}
    (h : split room bytes = .ok (digits, rest)) : bytes = digits ++ rest ∧ 0 < digits.length := by
  fun_induction split room bytes generalizing digits with
  | case1 => simp at h
  | case2 => simp at h
  | case3 room b bytes hb =>
    simp only [Except.ok.injEq, Prod.mk.injEq] at h
    simp [← h.1, ← h.2]
  | case4 room b bytes hb ds r hs ih =>
    simp only [Except.ok.injEq, Prod.mk.injEq] at h
    obtain ⟨rfl, rfl⟩ := h
    simp [(ih hs).1]
  | case5 => simp at h

theorem read_rest_length {bytes rest : List UInt8} {v : UInt64} {n : Nat}
    (h : read bytes = .ok (v, n, rest)) : rest.length < bytes.length := by
  unfold read at h
  split at h
  next digits r hs =>
    simp only [Except.ok.injEq, Prod.mk.injEq] at h
    obtain ⟨-, -, rfl⟩ := h
    have := split_append hs
    rw [this.1, List.length_append]
    omega
  next => simp at h

end Telemetry.Wire.Varint

namespace Telemetry.Wire.Zigzag

def encode64 (v : Int64) : UInt64 :=
  ((v <<< 1) ^^^ (v >>> 63)).toUInt64

def decode64 (raw : UInt64) : Int64 :=
  ((raw >>> 1) ^^^ (0 - (raw &&& 1))).toInt64

def encode32 (v : Int32) : UInt64 :=
  ((v <<< 1) ^^^ (v >>> 31)).toUInt32.toUInt64

/-- The whole 64-bit varint is mapped back first and cut to 32 bits afterwards. -/
def decode32 (raw : UInt64) : Int32 :=
  (decode64 raw).toInt32

end Telemetry.Wire.Zigzag
