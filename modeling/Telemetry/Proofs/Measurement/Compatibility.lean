import Telemetry.Proofs.Measurement.Envelope
import Telemetry.Proofs.Wire.Concatenation

/-! What a reader does not know cannot mislead it: a measurement and a batch stay what they are when
other fields are put in between, wherever that is. -/

namespace Telemetry.Measurement

open Wire

def Known (f : Field) : Prop :=
  1 ≤ f.number ∧ f.number ≤ 8

def HoldsValue (f : Field) : Prop :=
  2 ≤ f.number ∧ f.number ≤ 8

def interpret (bytes : List UInt8) : Except DecodeError Measurement :=
  (Message.decode bytes).map ofMessage

lemma Kind.isSome_ofSlot?_iff (number : UInt32) :
    (ofSlot? number).isSome = true ↔ 2 ≤ number ∧ number ≤ 8 := by
  grind [ofSlot?]

lemma not_holdsValue {f : Field} (h : ¬ Known f) : ¬ HoldsValue f :=
  fun hvalue => h ⟨UInt32.le_trans (by decide) hvalue.1, hvalue.2⟩

lemma number_ne_of_not_known {f : Field} (h : ¬ Known f) : f.number ≠ idField :=
  fun hid => h (by rw [Known, hid]; decide)

lemma findSome?_insert {α β : Type*} {g : α → Option β} {x w : List α}
    (h : (∀ a ∈ w, g a = none) ∨ ∃ a ∈ x, (g a).isSome = true) (y : List α) :
    (x ++ w ++ y).findSome? g = (x ++ y).findSome? g := by
  -- What a search finds does not change if nothing that is put in is looked for, or if the search
  -- has ended before.
  rw [List.findSome?_append, List.findSome?_append, List.findSome?_append]
  rcases h with hw | hx
  · rw [List.findSome?_eq_none_iff.mpr hw, Option.or_none]
  · obtain ⟨b, hb⟩ := Option.isSome_iff_exists.mp (List.findSome?_isSome_iff.mpr hx)
    rw [hb]
    rfl

lemma ofMessage_insert {x w : Message} (hid : (∀ f ∈ w, f.number ≠ idField) ∨
      ∃ f ∈ x, f.number = idField)
    (hvalue : (∀ f ∈ w, ¬ HoldsValue f) ∨ ∃ f ∈ x, HoldsValue f) (y : Message) :
    ofMessage (x ++ w ++ y) = ofMessage (x ++ y) := by
  have hfirst : Message.first? (x ++ w ++ y) idField = Message.first? (x ++ y) idField := by
    unfold Message.first?
    rw [List.find?_eq_findSome?_guard, List.find?_eq_findSome?_guard]
    apply findSome?_insert
    simpa using hid
  have hslot : slot? (x ++ w ++ y) = slot? (x ++ y) := by
    unfold slot?
    apply findSome?_insert
    simp only [Option.isSome_map, ← Option.not_isSome_iff_eq_none, Kind.isSome_ofSlot?_iff]
    exact hvalue
  simp only [ofMessage, hfirst, hslot]

variable {x w y : List UInt8} {mx mw my : Message}

lemma decode_insert (hx : Message.decode x = .ok mx) (hw : Message.decode w = .ok mw)
    (hy : Message.decode y = .ok my) :
    Message.decode (x ++ y) = .ok (mx ++ my) ∧
      Message.decode (x ++ w ++ y) = .ok (mx ++ mw ++ my) := by
  have hxw := (Message.decode_append hx w).1 mw hw
  exact ⟨(Message.decode_append hx y).1 my hy, (Message.decode_append hxw y).1 my hy⟩

lemma message?_eq_none {f : Field} (hf : f.wireType ≠ .bytes) : f.payload.message? = none := by
  rcases f with ⟨n, payload⟩
  cases payload with
  | bytes raw => exact absurd rfl hf
  | _ => rfl

lemma entries_insert (hmw : ∀ f ∈ mw, f.number ≠ envelopeField ∨ f.wireType ≠ .bytes) :
    (Message.numbered (mx ++ mw ++ my) envelopeField).filterMap (·.payload.message?) =
      (Message.numbered (mx ++ my) envelopeField).filterMap (·.payload.message?) := by
  have hnone : (Message.numbered mw envelopeField).filterMap (·.payload.message?) = [] := by
    apply List.filterMap_eq_nil_iff.mpr
    intro f hf
    obtain ⟨hmem, hnumber⟩ := List.mem_filter.mp hf
    rcases hmw f hmem with hother | hscalar
    · exact absurd (of_decide_eq_true hnumber) hother
    · exact message?_eq_none hscalar
  simp only [Message.numbered, List.filter_append, List.filterMap_append] at hnone ⊢
  rw [hnone, List.append_nil]

/-- Fields are put in behind a part of a stream. A measurement is the same without them if they have
other numbers than those of a measurement, or if its id and its value stand in front of them. A
batch is the same without them if none of them embeds a message as its entries do. -/
theorem insertion_unnoticed (hx : Message.decode x = .ok mx) (hw : Message.decode w = .ok mw)
    (hy : Message.decode y = .ok my) :
    ((∀ f ∈ mw, ¬ Known f) ∨ ((∃ f ∈ mx, f.number = 1) ∧ ∃ f ∈ mx, HoldsValue f) →
      ∃ m, interpret (x ++ y) = .ok m ∧ interpret (x ++ w ++ y) = .ok m) ∧
    ((∀ f ∈ mw, f.number ≠ envelopeField ∨ f.wireType ≠ .bytes) →
      ∀ ms, decodeAll (x ++ y) = .ok ms → decodeAll (x ++ w ++ y) = .ok ms) := by
  obtain ⟨hxy, hxwy⟩ := decode_insert hx hw hy
  constructor
  · intro h
    refine ⟨ofMessage (mx ++ my), congrArg _ hxy, ?_⟩
    have hsame : ofMessage (mx ++ mw ++ my) = ofMessage (mx ++ my) := by
      apply ofMessage_insert
      · exact h.imp (fun hmw f hf => number_ne_of_not_known (hmw f hf)) And.left
      · exact h.imp (fun hmw f hf => not_holdsValue (hmw f hf)) And.right
    rw [interpret, hxwy, ← hsame]
    rfl
  · intro hmw ms hms
    obtain ⟨envelope, inner, henvelope, hinner, hresult⟩ := (decodeAll_eq_ok_iff _ _).mp hms
    obtain rfl := Except.ok.inj (hxy.symm.trans henvelope)
    rw [← entries_insert hmw] at hinner
    exact (decodeAll_eq_ok_iff _ _).mpr ⟨mx ++ mw ++ my, inner, hxwy, hinner, hresult⟩

theorem insertion_unnoticed_pump :
    (∃ m, interpret ([8, 2] ++ [21, 0, 0, 128, 65]) = .ok m ∧
      interpret ([8, 2] ++ [80, 1] ++ [21, 0, 0, 128, 65]) = .ok m) ∧
    (∃ m, interpret ([8, 2, 21, 0, 0, 128, 65] ++ []) = .ok m ∧
      interpret ([8, 2, 21, 0, 0, 128, 65] ++ [8, 9, 32, 1] ++ []) = .ok m) ∧
    decodeAll ([10, 2, 8, 7] ++ [10, 2, 8, 9]) = .ok [⟨7, none⟩, ⟨9, none⟩] ∧
    decodeAll ([10, 2, 8, 7] ++ [80, 1, 8, 5] ++ [10, 2, 8, 9]) = .ok [⟨7, none⟩, ⟨9, none⟩] := by
  have hid : Message.decode [8, 2] = .ok [⟨1, .varint 2⟩] := by cbv
  have hunknown : Message.decode [80, 1] = .ok [⟨10, .varint 1⟩] := by cbv
  have hvalue : Message.decode [21, 0, 0, 128, 65] = .ok [⟨2, .fixed32 0x41800000⟩] := by cbv
  have hboth : Message.decode [8, 2, 21, 0, 0, 128, 65] =
      .ok [⟨1, .varint 2⟩, ⟨2, .fixed32 0x41800000⟩] := by cbv
  have hagain : Message.decode [8, 9, 32, 1] = .ok [⟨1, .varint 9⟩, ⟨4, .varint 1⟩] := by cbv
  have hnone : Message.decode [] = .ok [] := by cbv
  have hseven : Message.decode [10, 2, 8, 7] = .ok [⟨1, .bytes [8, 7]⟩] := by cbv
  have hnine : Message.decode [10, 2, 8, 9] = .ok [⟨1, .bytes [8, 9]⟩] := by cbv
  have hscalars : Message.decode [80, 1, 8, 5] = .ok [⟨10, .varint 1⟩, ⟨1, .varint 5⟩] := by cbv
  have hms : decodeAll ([10, 2, 8, 7] ++ [10, 2, 8, 9]) = .ok [⟨7, none⟩, ⟨9, none⟩] := by cbv
  refine ⟨(insertion_unnoticed hid hunknown hvalue).1 (Or.inl (by simp [Known])),
    (insertion_unnoticed hboth hagain hnone).1 (Or.inr (by simp [HoldsValue])), hms, ?_⟩
  exact (insertion_unnoticed hseven hscalars hnine).2 (by simp [envelopeField, Field.wireType,
    Payload.wireType]) _ hms

end Telemetry.Measurement
