import Mathlib.Tactic.Lemma
import Telemetry.Wire.View

namespace Telemetry.Wire

lemma embeddedFrom_eq_ok_iff (number : UInt32) (index : Nat) (seen : List Message)
    (fields : List Field) (ms : List Message) :
    embeddedFrom number index seen fields = .ok ms ↔
      ∃ inner, fields.filterMap (·.payload.message?) = inner.map .ok ∧
        ms = seen.reverse ++ inner := by
  induction fields generalizing index seen with
  | nil => simp [embeddedFrom, eq_comm]
  | cons f fields ih =>
    rcases f with ⟨n, payload⟩
    cases payload with
    | bytes raw =>
      cases hd : Message.decode raw with
      | error e =>
        simp only [embeddedFrom, hd, List.filterMap_cons, Payload.message?, Payload.bytes?,
          Option.map_some, reduceCtorEq, false_iff]
        rintro ⟨inner, hinner, -⟩
        cases inner <;> simp at hinner
      | ok m =>
        simp only [embeddedFrom, hd, ih, List.filterMap_cons, Payload.message?, Payload.bytes?,
          Option.map_some, List.reverse_cons, List.append_assoc]
        constructor
        · rintro ⟨inner, hinner, rfl⟩
          exact ⟨m :: inner, by rw [List.map_cons, hinner], rfl⟩
        · rintro ⟨inner, hinner, rfl⟩
          cases inner with
          | nil => simp at hinner
          | cons m' inner =>
            obtain ⟨hm, htail⟩ := List.cons.inj hinner
            obtain rfl := Except.ok.inj hm
            exact ⟨inner, htail, rfl⟩
    | _ => simpa [embeddedFrom, Payload.message?, Payload.bytes?] using ih (index + 1) seen

lemma decodeRepeated_eq_ok_iff (bytes : List UInt8) (number : UInt32) (ms : List Message) :
    decodeRepeated bytes number = .ok ms ↔ ∃ envelope, Message.decode bytes = .ok envelope ∧
      (envelope.numbered number).filterMap (·.payload.message?) = ms.map .ok := by
  cases hd : Message.decode bytes with
  | error e => simp [decodeRepeated, hd]
  | ok envelope => simp [decodeRepeated, hd, embeddedFrom_eq_ok_iff]

def Field.Sound (f : Field) : Prop :=
  ∀ raw, f.payload = .bytes raw → ∃ m, Message.decode raw = .ok m

lemma exists_embeddedFrom_iff (number : UInt32) (index : Nat) (seen : List Message)
    (fields : List Field) :
    (∃ ms, embeddedFrom number index seen fields = .ok ms) ↔ ∀ f ∈ fields, f.Sound := by
  induction fields generalizing index seen with
  | nil => simp [embeddedFrom]
  | cons f fields ih =>
    rcases f with ⟨n, payload⟩
    cases payload with
    | bytes raw =>
      cases hd : Message.decode raw with
      | error e => simp [embeddedFrom, Field.Sound, hd]
      | ok m => simp [embeddedFrom, Field.Sound, hd, ih]
    | _ => simp [embeddedFrom, Field.Sound, ih]

inductive FirstDefect (fields : List Field) : Nat → DecodeError → Prop
  | intro {before after : List Field} {f : Field} {raw : List UInt8} {inner : DecodeError} :
      fields = before ++ f :: after → (∀ g ∈ before, g.Sound) → f.payload = .bytes raw →
      Message.decode raw = .error inner → FirstDefect fields before.length inner

lemma not_firstDefect_nil {i : Nat} {inner : DecodeError} : ¬ FirstDefect [] i inner := by
  rintro ⟨hsplit, -, -, -⟩
  simp at hsplit

lemma firstDefect_cons_iff (f : Field) (fields : List Field) (i : Nat) (inner : DecodeError) :
    FirstDefect (f :: fields) i inner ↔
      (i = 0 ∧ ∃ raw, f.payload = .bytes raw ∧ Message.decode raw = .error inner) ∨
        ∃ j, i = j + 1 ∧ f.Sound ∧ FirstDefect fields j inner := by
  constructor
  · rintro @⟨before, after, g, raw, _, hsplit, hsound, hg, hraw⟩
    cases before with
    | nil =>
      obtain ⟨rfl, -⟩ := List.cons.inj hsplit
      exact Or.inl ⟨rfl, raw, hg, hraw⟩
    | cons first before =>
      obtain ⟨rfl, hfields⟩ := List.cons.inj hsplit
      obtain ⟨hf, hbefore⟩ := List.forall_mem_cons.mp hsound
      exact Or.inr ⟨before.length, rfl, hf, .intro hfields hbefore hg hraw⟩
  · rintro (⟨rfl, raw, hf, hraw⟩ | ⟨j, rfl, hf, hdefect⟩)
    · have hsplit : f :: fields = [] ++ f :: fields := rfl
      exact .intro hsplit (List.forall_mem_nil _) hf hraw
    · cases hdefect with
      | @intro before after g raw _ hfields hbefore hg hraw =>
        have hsound := List.forall_mem_cons.mpr ⟨hf, hbefore⟩
        exact .intro (congrArg (f :: ·) hfields) hsound hg hraw

lemma firstDefect_cons_of_sound {f : Field} (hf : f.Sound) (fields : List Field) (i : Nat)
    (inner : DecodeError) :
    FirstDefect (f :: fields) i inner ↔ ∃ j, i = j + 1 ∧ FirstDefect fields j inner := by
  rw [firstDefect_cons_iff]
  constructor
  · rintro (⟨-, raw, hraw, he⟩ | ⟨j, hj, -, hdefect⟩)
    · obtain ⟨m, hm⟩ := hf raw hraw
      cases hm.symm.trans he
    · exact ⟨j, hj, hdefect⟩
  · rintro ⟨j, hj, hdefect⟩
    exact Or.inr ⟨j, hj, hf, hdefect⟩

lemma firstDefect_cons_of_error {f : Field} {raw : List UInt8} {inner : DecodeError}
    (hraw : f.payload = .bytes raw) (he : Message.decode raw = .error inner) (fields : List Field)
    (i : Nat) (other : DecodeError) :
    FirstDefect (f :: fields) i other ↔ i = 0 ∧ other = inner := by
  rw [firstDefect_cons_iff]
  constructor
  · rintro (⟨hi, raw', hraw', he'⟩ | ⟨j, -, hf, -⟩)
    · obtain rfl := Payload.bytes.inj (hraw.symm.trans hraw')
      exact ⟨hi, Except.error.inj (he'.symm.trans he)⟩
    · obtain ⟨m, hm⟩ := hf raw hraw
      cases hm.symm.trans he
  · rintro ⟨hi, rfl⟩
    exact Or.inl ⟨hi, raw, hraw, he⟩

lemma embeddedFrom_eq_error_iff (number : UInt32) (index : Nat) (seen : List Message)
    (fields : List Field) (e : DecodeError) :
    embeddedFrom number index seen fields = .error e ↔
      ∃ i inner, FirstDefect fields i inner ∧ e = .nested number (index + i) inner := by
  induction fields generalizing index seen with
  | nil => simp [embeddedFrom, not_firstDefect_nil]
  | cons f fields ih =>
    -- A field that is passed over moves the others by one place.
    have hpassed (hf : f.Sound) (seen' : List Message) :
        embeddedFrom number (index + 1) seen' fields = .error e ↔
          ∃ i inner, FirstDefect (f :: fields) i inner ∧ e = .nested number (index + i) inner := by
      simp only [ih, firstDefect_cons_of_sound hf]
      constructor
      · rintro ⟨j, inner, hdefect, rfl⟩
        exact ⟨j + 1, inner, ⟨j, rfl, hdefect⟩, by rw [Nat.add_assoc, Nat.add_comm 1]⟩
      · rintro ⟨_, inner, ⟨j, rfl, hdefect⟩, rfl⟩
        exact ⟨j, inner, hdefect, by rw [Nat.add_assoc, Nat.add_comm 1]⟩
    rcases f with ⟨n, payload⟩
    cases payload with
    | bytes raw =>
      cases hd : Message.decode raw with
      | error inner =>
        have hcons := firstDefect_cons_of_error (f := ⟨n, .bytes raw⟩) rfl hd fields
        simp only [embeddedFrom, hd, hcons, Except.error.injEq]
        constructor
        · rintro rfl
          exact ⟨0, inner, ⟨rfl, rfl⟩, rfl⟩
        · rintro ⟨_, _, ⟨rfl, rfl⟩, rfl⟩
          rfl
      | ok m =>
        simp only [embeddedFrom, hd]
        exact hpassed (fun r hr => ⟨m, by rw [← Payload.bytes.inj hr, hd]⟩) _
    | _ => exact hpassed nofun _

lemma decodeRepeated_eq_error_iff (bytes : List UInt8) (number : UInt32) (e : DecodeError) :
    decodeRepeated bytes number = .error e ↔ Message.decode bytes = .error e ∨
      ∃ envelope i inner, Message.decode bytes = .ok envelope ∧
        FirstDefect (envelope.numbered number) i inner ∧ e = .nested number i inner := by
  cases hd : Message.decode bytes with
  | error e' => simp [decodeRepeated, hd]
  | ok envelope => simp [decodeRepeated, hd, embeddedFrom_eq_error_iff]

end Telemetry.Wire
