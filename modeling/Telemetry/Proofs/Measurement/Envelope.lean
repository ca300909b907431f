import Mathlib.Tactic.Lemma
import Telemetry.Measurement.Basic
import Telemetry.Proofs.Wire.Embedded
import Telemetry.Proofs.Wire.Grammar

namespace Telemetry

open Wire

namespace Measurement

lemma decodeAll_eq_ok_iff (bytes : List UInt8) (ms : List Measurement) :
    decodeAll bytes = .ok ms ↔ ∃ (envelope : Message) (inner : List Message),
      Message.decode bytes = .ok envelope ∧
      (envelope.numbered envelopeField).filterMap (·.payload.message?) = inner.map .ok ∧
      ms = inner.map ofMessage := by
  have hr := decodeRepeated_eq_ok_iff bytes envelopeField
  cases hd : decodeRepeated bytes envelopeField with
  | error e =>
    simp only [hd, reduceCtorEq, false_iff] at hr
    simp only [decodeAll, hd, reduceCtorEq, false_iff]
    rintro ⟨envelope, inner, henvelope, hinner, -⟩
    exact hr inner ⟨envelope, henvelope, hinner⟩
  | ok found =>
    simp only [hd, Except.ok.injEq] at hr
    simp only [decodeAll, hd, Except.ok.injEq]
    constructor
    · rintro rfl
      obtain ⟨envelope, henvelope, hinner⟩ := (hr found).mp rfl
      exact ⟨envelope, found, henvelope, hinner, rfl⟩
    · rintro ⟨envelope, inner, henvelope, hinner, rfl⟩
      rw [(hr inner).mpr ⟨envelope, henvelope, hinner⟩]

lemma decodeAll_eq_error_iff (bytes : List UInt8) (e : DecodeError) :
    decodeAll bytes = .error e ↔ decodeRepeated bytes envelopeField = .error e := by
  unfold decodeAll
  cases decodeRepeated bytes envelopeField <;> simp

lemma decodeAll_of_error {bytes : List UInt8} {e : DecodeError}
    (h : Message.decode bytes = .error e) : decodeAll bytes = .error e := by
  simp only [decodeAll, decodeRepeated, h]

end Measurement

def Wire.Field.measurement? (f : Field) : Option Measurement :=
  if f.number = Measurement.envelopeField then
    (f.payload.message?.bind Except.toOption).map Measurement.ofMessage
  else none

namespace Measurement

lemma filterMap_measurement? {m : Message} {inner : List Message}
    (h : (m.numbered envelopeField).filterMap (·.payload.message?) = inner.map .ok) :
    m.filterMap Field.measurement? = inner.map ofMessage := by
  have hsplit : m.filterMap Field.measurement? =
      ((m.numbered envelopeField).filterMap (·.payload.message?)).filterMap fun r =>
        r.toOption.map ofMessage := by
    rw [List.filterMap_filterMap, Message.numbered, List.filterMap_filter]
    congr 1
    funext f
    by_cases hf : f.number = envelopeField
    · simp [Field.measurement?, hf, Option.map_bind]
    · simp [Field.measurement?, hf]
  rw [hsplit, h, List.filterMap_map]
  simp [Function.comp_def, Except.toOption]

lemma eq_of_decodeAll {bytes : List UInt8} {m : Message} {ms : List Measurement}
    (hm : Message.decode bytes = .ok m) (hms : decodeAll bytes = .ok ms) :
    ms = m.filterMap Field.measurement? := by
  obtain ⟨envelope, inner, henvelope, hinner, rfl⟩ := (decodeAll_eq_ok_iff _ _).mp hms
  obtain rfl := Except.ok.inj (hm.symm.trans henvelope)
  exact (filterMap_measurement? hinner).symm

lemma decodeAll_of_take {bytes kept : List UInt8} {m : Message} {ms : List Measurement} {k : Nat}
    (hm : Message.decode bytes = .ok m) (hms : decodeAll bytes = .ok ms)
    (hkept : Message.decode kept = .ok (m.take k)) :
    decodeAll kept = .ok ((m.take k).filterMap Field.measurement?) := by
  -- The embedded messages decode each on its own, so fewer fields still decode.
  obtain ⟨envelope, inner, henvelope, hinner, -⟩ := (decodeAll_eq_ok_iff _ _).mp hms
  obtain rfl := Except.ok.inj (hm.symm.trans henvelope)
  have htake : m.take k <+: m := ⟨m.drop k, List.take_append_drop k m⟩
  have hfewer : (Message.numbered (m.take k) envelopeField).filterMap (·.payload.message?) <+:
      inner.map .ok :=
    hinner ▸ (htake.filter _).filterMap _
  obtain ⟨j, hj⟩ : ∃ j, (Message.numbered (m.take k) envelopeField).filterMap
      (·.payload.message?) = (inner.take j).map .ok :=
    ⟨_, (List.prefix_iff_eq_take.mp hfewer).trans List.map_take.symm⟩
  exact (decodeAll_eq_ok_iff _ _).mpr
    ⟨m.take k, inner.take j, hkept, hj, filterMap_measurement? hj⟩

end Measurement

end Telemetry
