import Telemetry.Proofs.Wire.Defects

namespace Telemetry.Wire

lemma DecodeError.offset?_shift (k : ℕ) (e : DecodeError) :
    (e.shift k).offset? = e.offset?.map (k + ·) := by
  cases e <;> rfl

lemma readVarint_add (k offset : ℕ) (bytes : List UInt8) :
    readVarint (k + offset) bytes = (readVarint offset bytes).mapError (DecodeError.shift k) := by
  unfold readVarint
  split <;> rfl

lemma Payload.read_add (field : UInt32) (k offset : ℕ) (bytes : List UInt8) (t : WireType) :
    Payload.read field (k + offset) bytes t =
      (Payload.read field offset bytes t).mapError (DecodeError.shift k) := by
  cases t with
  | varint =>
    simp only [Payload.read, readVarint_add]
    cases readVarint offset bytes <;> rfl
  | fixed64 =>
    simp only [Payload.read]
    cases splitExact? 8 bytes <;> rfl
  | bytes =>
    simp only [Payload.read, readVarint_add]
    cases readVarint offset bytes with
    | error e => rfl
    | ok r =>
      obtain ⟨declared, n, rest⟩ := r
      simp only [Except.mapError, Nat.add_assoc]
      cases splitExact? declared.toNat rest <;> rfl
  | fixed32 =>
    simp only [Payload.read]
    cases splitExact? 4 bytes <;> rfl

lemma Field.read_add (k offset : ℕ) (bytes : List UInt8) :
    Field.read (k + offset) bytes = (Field.read offset bytes).mapError (DecodeError.shift k) := by
  simp only [Field.read, readVarint_add]
  cases readVarint offset bytes with
  | error e => rfl
  | ok r =>
    obtain ⟨tag, n, rest⟩ := r
    simp only [Except.mapError]
    cases WireType.ofCode? (tag &&& 7).toNat with
    | none => rfl
    | some t =>
      simp only [Nat.add_assoc, Payload.read_add _ k (offset + n)]
      cases Payload.read (tag >>> 3).toUInt32 (offset + n) rest t <;> rfl

namespace Message

lemma decodeFrom_add (k offset : ℕ) (older seen : List Field) (bytes : List UInt8) :
    decodeFrom (k + offset) (seen ++ older) bytes =
      ((decodeFrom offset seen bytes).map (older.reverse ++ ·)).mapError (DecodeError.shift k) := by
  fun_induction decodeFrom offset seen bytes with
  | case1 offset seen bytes hempty =>
    rw [decodeFrom, if_pos hempty, List.reverse_append]
    rfl
  | case2 offset seen bytes hempty f n rest hread ih =>
    have hread' : Field.read (k + offset) bytes = .ok (f, n, rest) := by
      rw [Field.read_add, hread]
      rfl
    rw [decodeFrom_of_read hread', Nat.add_assoc, ← ih]
    rfl
  | case3 offset seen bytes hempty e hread =>
    have hread' : Field.read (k + offset) bytes = .error (e.shift k) := by
      rw [Field.read_add, hread]
      rfl
    rw [decodeFrom_of_error (by simpa using hempty) hread']
    rfl

lemma decode_append_eq {a : List UInt8} {m : Message} (ha : decode a = .ok m) (b : List UInt8) :
    decode (a ++ b) = ((decode b).map (m ++ ·)).mapError (DecodeError.shift a.length) := by
  obtain ⟨pieces, rfl, hpieces⟩ := (decode_eq_ok_iff a m).mp ha
  have hbehind := decodeFrom_add pieces.flatten.length 0 m.reverse [] b
  rw [List.reverse_reverse, List.nil_append, Nat.add_zero] at hbehind
  rw [decode, decodeFrom_append hpieces, List.append_nil, Nat.zero_add, hbehind, decode]

theorem decode_append {a : List UInt8} {m : Message} (ha : decode a = .ok m) (b : List UInt8) :
    (∀ n, decode b = .ok n → decode (a ++ b) = .ok (m ++ n)) ∧
      ∀ e, decode b = .error e → decode (a ++ b) = .error (e.shift a.length) ∧
        ∃ offset, e.offset? = some offset ∧
          (e.shift a.length).offset? = some (a.length + offset) := by
  constructor
  · intro n hn
    rw [decode_append_eq ha, hn]
    rfl
  · intro e he
    obtain ⟨sound, -, hdescribes⟩ := exists_describes he
    obtain ⟨offset, hoffset, -⟩ := hdescribes.exists_offset
    refine ⟨by rw [decode_append_eq ha, he]; rfl, offset, hoffset, ?_⟩
    rw [DecodeError.offset?_shift, hoffset]
    rfl

theorem decode_append_cut_off :
    decode [8, 1] = .ok [⟨1, .varint 1⟩] ∧ decode [18, 3, 97] = .error (.truncatedBytes 2 3 1 2) ∧
      decode ([8, 1] ++ [18, 3, 97]) = .error (.truncatedBytes 2 3 1 4) := by
  have ha : decode [8, 1] = .ok [⟨1, .varint 1⟩] := by cbv
  have he : decode [18, 3, 97] = .error (.truncatedBytes 2 3 1 2) := by cbv
  exact ⟨ha, he, ((decode_append ha [18, 3, 97]).2 _ he).1⟩

end Message

end Telemetry.Wire
