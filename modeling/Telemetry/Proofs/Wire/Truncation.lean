import Telemetry.Proofs.Wire.Stream

namespace Telemetry.Wire

inductive DecodeError.CutsOff (field : UInt32) : DecodeError → Prop
  | varint (offset : ℕ) : CutsOff field (.truncatedVarint offset)
  | fixed32 (offset : ℕ) : CutsOff field (.truncatedFixed32 field offset)
  | fixed64 (offset : ℕ) : CutsOff field (.truncatedFixed64 field offset)
  | bytes (declared : UInt64) (remaining offset : ℕ) :
      CutsOff field (.truncatedBytes field declared remaining offset)

lemma append_cases {α : Type*} {a b kept lost : List α} (h : a ++ b = kept ++ lost) :
    (∃ r, r ≠ [] ∧ a = kept ++ r) ∨ ∃ q, kept = a ++ q ∧ b = q ++ lost := by
  rcases List.append_eq_append_iff.mp h with ⟨q, hkept, hb⟩ | ⟨r, ha, hlost⟩
  · exact Or.inr ⟨q, hkept, hb⟩
  · cases r with
    | nil => exact Or.inr ⟨[], by simpa using ha.symm, by simpa using hlost.symm⟩
    | cons x r => exact Or.inl ⟨x :: r, by simp, ha⟩

lemma flatten_cases {α : Type*} (pieces : List (List α)) {kept lost : List α}
    (h : pieces.flatten = kept ++ lost) :
    (∃ k, kept = (pieces.take k).flatten) ∨
      ∃ k q r, pieces[k]? = some (q ++ r) ∧ q ≠ [] ∧ r ≠ [] ∧
        kept = (pieces.take k).flatten ++ q := by
  induction pieces generalizing kept with
  | nil =>
    obtain ⟨rfl, -⟩ := List.append_eq_nil_iff.mp h.symm
    exact Or.inl ⟨0, rfl⟩
  | cons piece pieces ih =>
    rw [List.flatten_cons] at h
    rcases append_cases h with ⟨r, hr, rfl⟩ | ⟨q, rfl, hrest⟩
    · by_cases hk : kept = []
      · exact Or.inl ⟨0, hk⟩
      · exact Or.inr ⟨0, kept, r, rfl, hk, hr, rfl⟩
    · rcases ih hrest with ⟨k, rfl⟩ | ⟨k, q', r, hpiece, hq, hr, rfl⟩
      · exact Or.inl ⟨k + 1, rfl⟩
      · exact Or.inr ⟨k + 1, q', r, hpiece, hq, hr, by simp⟩

lemma Varint.split_truncated {room : ℕ} {kept lost : List UInt8} (ht : Terminated (kept ++ lost))
    (hlen : (kept ++ lost).length ≤ room) (hlost : lost ≠ []) :
    split room kept = .error .unfinished := by
  have hpos := List.length_pos_of_ne_nil hlost
  induction kept generalizing room with
  | nil =>
    cases room with
    | zero => exact absurd (hpos.trans_le hlen) (lt_irrefl 0)
    | succ room => rfl
  | cons b kept ih =>
    cases room with
    | zero => simp at hlen
    | succ room =>
      rcases (terminated_cons b (kept ++ lost)).mp ht with ⟨-, hnil⟩ | ⟨hb, ht⟩
      · exact absurd (List.append_eq_nil_iff.mp hnil).2 hlost
      · have hge : ¬ b < 128 := fun hlt => Nat.not_lt.mpr hb (UInt8.lt_iff_toNat_lt.mp hlt)
        simp [split, hge, ih ht (by simpa using hlen)]

lemma readVarint_truncated {kept lost : List UInt8} {v : UInt64}
    (hv : Varint.Spells (kept ++ lost) v) (hlost : lost ≠ []) (offset : ℕ) :
    readVarint offset kept = .error (.truncatedVarint offset) := by
  have hs : Varint.split Varint.maxLength kept = .error .unfinished :=
    Varint.split_truncated hv.terminated hv.length_le hlost
  simp only [readVarint, Varint.read, hs]

lemma splitExact?_truncated {n : ℕ} {kept : List UInt8} (h : kept.length < n) :
    splitExact? n kept = none := by
  simp [splitExact?, h]

lemma Payload.read_truncated {code : ℕ} {kept lost : List UInt8} {p : Payload}
    (h : Encoding code (kept ++ lost) p) (hlost : lost ≠ []) (field : UInt32) (offset : ℕ) :
    ∃ t e, WireType.ofCode? code = some t ∧ Payload.read field offset kept t = .error e ∧
      e.CutsOff field := by
  have hpos := List.length_pos_of_ne_nil hlost
  generalize hb : kept ++ lost = body at h
  have hlen : kept.length + lost.length = body.length := by rw [← hb, List.length_append]
  cases h with
  | varint hv =>
    refine ⟨.varint, _, rfl, ?_, .varint offset⟩
    simp only [Payload.read, readVarint_truncated (hb ▸ hv) hlost]
  | fixed64 hraw _ =>
    refine ⟨.fixed64, _, rfl, ?_, .fixed64 offset⟩
    simp only [Payload.read, splitExact?_truncated (show kept.length < 8 by omega)]
  | @bytes digits raw length hv hraw =>
    rcases append_cases hb.symm with ⟨r, hr, rfl⟩ | ⟨q, rfl, rfl⟩
    · refine ⟨.bytes, _, rfl, ?_, .varint offset⟩
      simp only [Payload.read, readVarint_truncated hv hr]
    · have hq : q.length < length.toNat := by
        rw [List.length_append] at hraw
        omega
      refine ⟨.bytes, _, rfl, ?_, .bytes length q.length (offset + digits.length)⟩
      simp only [Payload.read, readVarint_append hv, splitExact?_truncated hq]
  | fixed32 hraw _ =>
    refine ⟨.fixed32, _, rfl, ?_, .fixed32 offset⟩
    simp only [Payload.read, splitExact?_truncated (show kept.length < 4 by omega)]

lemma Field.read_truncated {kept lost : List UInt8} {f : Field} (h : Encoding (kept ++ lost) f)
    (hlost : lost ≠ []) (offset : ℕ) :
    ∃ e, Field.read offset kept = .error e ∧ e.CutsOff f.number := by
  generalize hb : kept ++ lost = piece at h
  cases h with
  | @intro digits body tag _ ht hnumber hp =>
    rcases append_cases hb.symm with ⟨r, hr, rfl⟩ | ⟨q, rfl, rfl⟩
    · refine ⟨_, ?_, .varint offset⟩
      simp only [Field.read, readVarint_truncated ht hr]
    · obtain ⟨t, e, hcode, hread, hcut⟩ :=
        Payload.read_truncated hp hlost f.number (offset + digits.length)
      refine ⟨e, ?_, hcut⟩
      simp only [Field.read, readVarint_append ht, toNat_code, hcode, number_eq hnumber, hread]

namespace Message

variable {pieces : List (List UInt8)} {m : Message}

lemma exists_field (h : List.Forall₂ Field.Encoding pieces m) {k : ℕ} {piece : List UInt8}
    (hpiece : pieces[k]? = some piece) : ∃ f, m[k]? = some f ∧ Field.Encoding piece f := by
  induction h generalizing k with
  | nil => simp at hpiece
  | @cons p f pieces m hp _ ih =>
    cases k with
    | zero =>
      obtain rfl : p = piece := by simpa using hpiece
      exact ⟨f, rfl, hp⟩
    | succ k => exact ih (by simpa using hpiece)

lemma decode_cut (h : List.Forall₂ Field.Encoding pieces m) {k : ℕ} {q r : List UInt8}
    (hpiece : pieces[k]? = some (q ++ r)) (hq : q ≠ []) (hr : r ≠ []) :
    ∃ f e, m[k]? = some f ∧ decode ((pieces.take k).flatten ++ q) = .error e ∧
      e.CutsOff f.number := by
  obtain ⟨f, hf, hp⟩ := exists_field h hpiece
  obtain ⟨e, hread, hcut⟩ := Field.read_truncated hp hr (0 + (pieces.take k).flatten.length)
  refine ⟨f, e, hf, ?_, hcut⟩
  rw [decode, decodeFrom_append (List.forall₂_take k h), decodeFrom_of_error hq hread]

variable {bytes kept : List UInt8}

lemma Layout.decode_between (hp : Layout bytes m pieces) {k : ℕ}
    (hk : kept = (pieces.take k).flatten) : decode kept = .ok (m.take k) :=
  (decode_eq_ok_iff _ _).mpr ⟨pieces.take k, hk.symm, List.forall₂_take k hp.encodings⟩

lemma Layout.decode_inside (hp : Layout bytes m pieces) (hkept : kept <+: bytes)
    (hnot : ∀ k, kept ≠ (pieces.take k).flatten) :
    ∃ k q r f e, kept = (pieces.take k).flatten ++ q ∧ q ≠ [] ∧ r ≠ [] ∧
      pieces[k]? = some (q ++ r) ∧ m[k]? = some f ∧
      decode kept = .error e ∧ e.CutsOff f.number := by
  obtain ⟨lost, hlost⟩ := hkept
  rcases flatten_cases pieces (hp.flatten_eq.trans hlost.symm) with
    ⟨k, hk⟩ | ⟨k, q, r, hpiece, hq, hr, rfl⟩
  · exact absurd hk (hnot k)
  · obtain ⟨f, e, hf, he, hcut⟩ := decode_cut hp.encodings hpiece hq hr
    exact ⟨k, q, r, f, e, rfl, hq, hr, hpiece, hf, he, hcut⟩

end Message

end Telemetry.Wire
