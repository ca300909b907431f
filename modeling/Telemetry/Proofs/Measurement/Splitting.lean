import Telemetry.Proofs.Measurement.Envelope
import Telemetry.Proofs.Wire.Concatenation

namespace Telemetry

namespace Wire

def DecodeError.behind (bytes entries : ℕ) : DecodeError → DecodeError
  | nested field index inner => nested field (entries + index) inner
  | e => e.shift bytes

lemma DecodeError.behind_of_offset? {e : DecodeError} {offset : ℕ} (he : e.offset? = some offset)
    (bytes entries : ℕ) : e.behind bytes entries = e.shift bytes := by
  cases e with
  | nested field index inner => simp [offset?] at he
  | _ => rfl

lemma embeddedFrom_append {number : UInt32} {index : ℕ} {seen ms : List Message}
    {fields : List Field} (h : embeddedFrom number index seen fields = .ok ms)
    (more : List Field) :
    embeddedFrom number index seen (fields ++ more) =
      embeddedFrom number (index + fields.length) ms.reverse more := by
  induction fields generalizing index seen with
  | nil =>
    obtain rfl : seen.reverse = ms := Except.ok.inj h
    rw [List.reverse_reverse]
    rfl
  | cons f fields ih =>
    rcases f with ⟨n, payload⟩
    rw [List.length_cons, Nat.add_comm fields.length, ← Nat.add_assoc]
    cases payload with
    | bytes raw =>
      cases hraw : Message.decode raw with
      | error e => simp [embeddedFrom, hraw] at h
      | ok m =>
        simp only [embeddedFrom, hraw] at h
        simp only [List.cons_append, embeddedFrom, hraw]
        exact ih h
    | _ => exact ih h

lemma embeddedFrom_add (number : UInt32) (bytes k index : ℕ) (older seen : List Message)
    (fields : List Field) :
    embeddedFrom number (k + index) (seen ++ older) fields =
      ((embeddedFrom number index seen fields).map (older.reverse ++ ·)).mapError
        (DecodeError.behind bytes k) := by
  induction fields generalizing index seen with
  | nil => exact congrArg Except.ok List.reverse_append
  | cons f fields ih =>
    rcases f with ⟨n, payload⟩
    cases payload with
    | bytes raw =>
      cases hraw : Message.decode raw with
      | error e =>
        simp only [embeddedFrom, hraw]
        rfl
      | ok m =>
        simp only [embeddedFrom, hraw]
        exact ih (index + 1) (m :: seen)
    | _ => exact ih (index + 1) seen

variable {a : List UInt8} {m : Message} {number : UInt32}

lemma decodeRepeated_append (ha : Message.decode a = .ok m) {ms : List Message}
    (hms : decodeRepeated a number = .ok ms) (b : List UInt8) :
    decodeRepeated (a ++ b) number = ((decodeRepeated b number).map (ms ++ ·)).mapError
      (DecodeError.behind a.length (m.numbered number).length) := by
  have hfront : embeddedFrom number 0 [] (m.numbered number) = .ok ms := by
    simpa only [decodeRepeated, ha] using hms
  simp only [decodeRepeated, Message.decode_append_eq ha]
  cases hb : Message.decode b with
  | error e =>
    obtain ⟨offset, hoffset⟩ := Message.exists_offset hb
    exact congrArg Except.error (DecodeError.behind_of_offset? hoffset _ _).symm
  | ok n =>
    have hsplit : (m ++ n : Message).numbered number = m.numbered number ++ n.numbered number :=
      List.filter_append m n
    have hbehind := embeddedFrom_add number a.length (m.numbered number).length 0 ms.reverse []
      (n.numbered number)
    rw [List.reverse_reverse] at hbehind
    simp only [Except.map, Except.mapError, hsplit, embeddedFrom_append hfront]
    rw [Nat.zero_add]
    exact hbehind

end Wire

namespace Measurement

open Wire

variable {a : List UInt8} {m : Message} {ms : List Measurement}

lemma decodeAll_append (ha : Message.decode a = .ok m) (hms : decodeAll a = .ok ms)
    (b : List UInt8) :
    decodeAll (a ++ b) = ((decodeAll b).map (ms ++ ·)).mapError
      (DecodeError.behind a.length (m.numbered envelopeField).length) := by
  unfold decodeAll at hms ⊢
  cases hinner : decodeRepeated a envelopeField with
  | error e => simp [hinner] at hms
  | ok inner =>
    obtain rfl : inner.map ofMessage = ms := by simpa [hinner] using hms
    rw [decodeRepeated_append ha hinner]
    cases decodeRepeated b envelopeField with
    | error e => rfl
    | ok more => exact congrArg Except.ok List.map_append

lemma decodeAll_error_cases {b : List UInt8} {e : DecodeError} (he : decodeAll b = .error e) :
    (∃ offset, e.offset? = some offset) ∨
      ∃ index inner, e = .nested envelopeField index inner := by
  rw [decodeAll_eq_error_iff, decodeRepeated_eq_error_iff] at he
  rcases he with hb | ⟨m, index, inner, -, -, rfl⟩
  · exact Or.inl (Message.exists_offset hb)
  · exact Or.inr ⟨index, inner, rfl⟩

end Measurement

end Telemetry
