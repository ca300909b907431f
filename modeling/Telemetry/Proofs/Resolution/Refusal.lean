import Telemetry.Proofs.Resolution.Splitting

/-! Why a batch is refused. A defect of the stream itself goes before any defect of what is embedded
in it; among the embedded messages the first one that is defective gives the reason. -/

namespace Telemetry

namespace Wire

def DecodeError.depth : DecodeError → ℕ
  | nested _ _ inner => inner.depth + 1
  | _ => 0

structure DecodeError.OfFraming (e : DecodeError) : Prop where
  depth : e.depth = 0
  root : e.root = e
  notText : ∀ defect, e ≠ .invalidUtf8 defect

lemma DecodeError.OfFraming.not_nested {e : DecodeError} (h : e.OfFraming) :
    ¬ ∃ field index inner, e = .nested field index inner := by
  rintro ⟨field, index, inner, rfl⟩
  exact Nat.succ_ne_zero _ h.depth

lemma Message.ofFraming_of_decode {bytes : List UInt8} {e : DecodeError}
    (h : decode bytes = .error e) : e.OfFraming := by
  obtain ⟨offset, hoffset⟩ := exists_offset h
  cases e with
  | nested => cases hoffset
  | invalidUtf8 => cases hoffset
  | _ => exact ⟨rfl, rfl, nofun⟩

section Repeated

variable {bytes : List UInt8} {number : UInt32} {m : Message} {e : DecodeError}

lemma FirstDefect.ofFraming {fields : List Field} {i : ℕ} {inner : DecodeError}
    (h : FirstDefect fields i inner) : inner.OfFraming := by
  cases h with
  | intro _ _ _ hraw => exact Message.ofFraming_of_decode hraw

lemma decodeRepeated_framing_iff (bytes : List UInt8) (number : UInt32) (e : DecodeError) :
    (decodeRepeated bytes number = .error e ∧
        ¬ ∃ field index inner, e = .nested field index inner) ↔
      Message.decode bytes = .error e := by
  rw [decodeRepeated_eq_error_iff]
  constructor
  · rintro ⟨h | ⟨m, i, inner, -, -, rfl⟩, hflat⟩
    · exact h
    · exact absurd ⟨number, i, inner, rfl⟩ hflat
  · intro h
    exact ⟨Or.inl h, (Message.ofFraming_of_decode h).not_nested⟩

lemma decodeRepeated_nested_iff (hm : Message.decode bytes = .ok m) :
    decodeRepeated bytes number = .error e ↔ ∃ i inner,
      FirstDefect (m.numbered number) i inner ∧ e = .nested number i inner ∧ e.root = inner := by
  simp only [decodeRepeated_eq_error_iff, hm, reduceCtorEq, false_or, Except.ok.injEq]
  constructor
  · rintro ⟨_, i, inner, rfl, hdefect, rfl⟩
    exact ⟨i, inner, hdefect, rfl, hdefect.ofFraming.root⟩
  · rintro ⟨i, inner, hdefect, he, -⟩
    exact ⟨m, i, inner, rfl, hdefect, he⟩

lemma map_mapError_eq_map_ok_iff {ε ε' α : Type} (g : ε → ε') (rs : List (Except ε α))
    (as : List α) : rs.map (Except.mapError g) = as.map .ok ↔ rs = as.map .ok := by
  induction rs generalizing as with
  | nil => cases as <;> simp
  | cons r rs ih =>
    cases as with
    | nil => simp
    | cons a as => cases r <;> simp [Except.mapError, ih]

lemma filterMap_message?_eq_iff (m : Message) (number : UInt32) (ms : List Message) :
    (m.numbered number).filterMap Field.message? = ms.map .ok ↔
      (m.numbered number).filterMap (·.payload.message?) = ms.map .ok := by
  -- The view of a field reports a defect under the field's own number; this does not matter where
  -- there is none.
  have hview : (m.numbered number).filterMap Field.message? =
      ((m.numbered number).filterMap (·.payload.message?)).map
        (Except.mapError (.nested number 0)) := by
    rw [List.map_filterMap]
    apply List.filterMap_congr
    intro f hf
    obtain rfl : f.number = number := by simpa using (List.mem_filter.mp hf).2
    rfl
  rw [hview, map_mapError_eq_map_ok_iff]

lemma Field.sound_iff (f : Field) :
    f.Sound ↔ (f.wireType = .bytes → ∃ inner, f.message? = some (.ok inner)) := by
  rcases f with ⟨number, payload⟩
  cases payload with
  | bytes raw =>
    have hview : (Field.mk number (.bytes raw)).message? =
        some ((Message.decode raw).mapError (.nested number 0)) := rfl
    rw [hview]
    cases hraw : Message.decode raw <;>
      simp [Sound, wireType, Payload.wireType, hraw, Except.mapError]
  | _ => simp [Sound, wireType, Payload.wireType]

lemma exists_decodeRepeated_iff (hm : Message.decode bytes = .ok m) :
    (∃ ms, decodeRepeated bytes number = .ok ms) ↔ ∀ f ∈ m, f.number = number →
      f.wireType = .bytes → ∃ inner, f.message? = some (.ok inner) := by
  have hsound : (∃ ms, decodeRepeated bytes number = .ok ms) ↔
      ∀ f ∈ m.numbered number, f.Sound := by
    simp only [decodeRepeated, hm, exists_embeddedFrom_iff]
  simp only [hsound, Message.numbered, List.mem_filter, decide_eq_true_eq, and_imp,
    Field.sound_iff]

end Repeated

end Wire

open Schema Time Wire

lemma Measurement.shallow_of_decodeAll {bytes : List UInt8} {e : DecodeError}
    (h : decodeAll bytes = .error e) :
    e.depth ≤ 1 ∧ (∀ defect, e.root ≠ .invalidUtf8 defect) ∧
      ∀ field index inner, e = .nested field index inner → e.root = inner := by
  rw [decodeAll_eq_error_iff, decodeRepeated_eq_error_iff] at h
  rcases h with h | ⟨m, i, inner, -, hdefect, rfl⟩
  · have hframing := Message.ofFraming_of_decode h
    refine ⟨hframing.depth.le.trans (Nat.zero_le 1), ?_, ?_⟩
    · rw [hframing.root]
      exact hframing.notText
    · intro field index inner he
      exact absurd ⟨field, index, inner, he⟩ hframing.not_nested
  · have hframing := hdefect.ofFraming
    refine ⟨Nat.succ_le_succ hframing.depth.le, ?_, ?_⟩
    · rw [DecodeError.root, hframing.root]
      exact hframing.notText
    · rintro _ _ _ ⟨⟩
      exact hframing.root

namespace Resolution

open Measurement

theorem refused_for_first_defect (bytes : List UInt8) (number : UInt32) :
    (∀ e, (decodeRepeated bytes number = .error e ∧
        ¬ ∃ field index inner, e = .nested field index inner) ↔
      Message.decode bytes = .error e) ∧
    (∀ m, Message.decode bytes = .ok m →
      ((∃ ms, decodeRepeated bytes number = .ok ms) ↔ ∀ f ∈ m, f.number = number →
        f.wireType = .bytes → ∃ inner, f.message? = some (.ok inner)) ∧
      (∀ ms, decodeRepeated bytes number = .ok ms ↔
        (m.numbered number).filterMap Field.message? = ms.map .ok) ∧
      ∀ e, decodeRepeated bytes number = .error e ↔ ∃ i inner,
        FirstDefect (m.numbered number) i inner ∧ e = .nested number i inner ∧ e.root = inner) ∧
    (∀ e, decodeAll bytes = .error e ↔ decodeRepeated bytes envelopeField = .error e) ∧
    (∀ lookup fallback e,
      resolveBatch lookup fallback bytes = .error e ↔ decodeAll bytes = .error e) ∧
    ∀ e, decodeAll bytes = .error e → e.depth ≤ 1 ∧ (∀ defect, e.root ≠ .invalidUtf8 defect) ∧
      ∀ field index inner, e = .nested field index inner → e.root = inner := by
  refine ⟨decodeRepeated_framing_iff bytes number, ?_, decodeAll_eq_error_iff bytes,
    fun lookup fallback => resolveBatch_eq_error_iff lookup fallback bytes,
    fun e => shallow_of_decodeAll⟩
  intro m hm
  refine ⟨exists_decodeRepeated_iff hm, ?_, fun e => decodeRepeated_nested_iff hm⟩
  intro ms
  rw [filterMap_message?_eq_iff, decodeRepeated_eq_ok_iff]
  simp only [hm, Except.ok.injEq, exists_eq_left']

example : decodeRepeated [8, 5, 10, 1, 8] 1 = .error (.nested 1 1 (.truncatedVarint 1)) := by cbv

example : decodeRepeated [8, 5, 10, 1, 8, 10] 1 = .error (.truncatedVarint 6) := by cbv

end Resolution

end Telemetry
