import Telemetry.Proofs.Wire.Grammar

namespace Telemetry.Wire.Message

lemma decodeFrom_of_read {offset n : ℕ} {seen : List Field} {bytes rest : List UInt8} {f : Field}
    (hread : Field.read offset bytes = .ok (f, n, rest)) :
    decodeFrom offset seen bytes = decodeFrom (offset + n) (f :: seen) rest := by
  have hne : bytes ≠ [] := List.ne_nil_of_length_pos
    ((Nat.zero_le _).trans_lt (Field.read_rest_length hread))
  rw [decodeFrom, if_neg (by simpa using hne)]
  split
  next f' n' rest' hread' =>
    obtain ⟨rfl, rfl, rfl⟩ : f' = f ∧ n' = n ∧ rest' = rest := by simpa [hread] using hread'.symm
    rfl
  next e hread' => simp [hread] at hread'

lemma decodeFrom_of_error {offset : ℕ} {seen : List Field} {bytes : List UInt8} {e : DecodeError}
    (hne : bytes ≠ []) (hread : Field.read offset bytes = .error e) :
    decodeFrom offset seen bytes = .error e := by
  rw [decodeFrom, if_neg (by simpa using hne)]
  split
  next hread' => simp [hread] at hread'
  next e' hread' =>
    obtain rfl : e' = e := by simpa [hread] using hread'.symm
    rfl

lemma decodeFrom_append {pieces : List (List UInt8)} {m : Message}
    (h : List.Forall₂ Field.Encoding pieces m) (offset : ℕ) (seen : List Field)
    (rest : List UInt8) :
    decodeFrom offset seen (pieces.flatten ++ rest) =
      decodeFrom (offset + pieces.flatten.length) (m.reverse ++ seen) rest := by
  induction h generalizing offset seen with
  | nil => rfl
  | @cons piece f pieces m hp _ ih =>
    have hread := Field.read_append hp offset (pieces.flatten ++ rest)
    rw [List.flatten_cons, List.append_assoc, decodeFrom_of_read hread, ih]
    simp [Nat.add_assoc]

structure Layout (bytes : List UInt8) (m : Message) (pieces : List (List UInt8)) : Prop where
  flatten_eq : pieces.flatten = bytes
  encodings : List.Forall₂ Field.Encoding pieces m

lemma exists_layout {bytes : List UInt8} {m : Message} (hm : decode bytes = .ok m) :
    ∃ pieces, Layout bytes m pieces := by
  obtain ⟨pieces, hflat, hpieces⟩ := (decode_eq_ok_iff bytes m).mp hm
  exact ⟨pieces, hflat, hpieces⟩

lemma decodeFrom_eq_error_iff (offset : ℕ) (seen : List Field) (bytes : List UInt8)
    (e : DecodeError) :
    decodeFrom offset seen bytes = .error e ↔
      ∃ pieces m rest, bytes = pieces.flatten ++ rest ∧ List.Forall₂ Field.Encoding pieces m ∧
        rest ≠ [] ∧ Field.read (offset + pieces.flatten.length) rest = .error e := by
  constructor
  · intro h
    fun_induction decodeFrom offset seen bytes with
    | case1 => simp at h
    | case2 offset seen bytes hne f n rest hread ih =>
      obtain ⟨piece, rfl, rfl, hp⟩ := Field.read_sound hread
      obtain ⟨pieces, m, rest, rfl, hpieces, hrest, hdefect⟩ := ih h
      refine ⟨piece :: pieces, f :: m, rest, by simp, .cons hp hpieces, hrest, ?_⟩
      rwa [List.flatten_cons, List.length_append, ← Nat.add_assoc]
    | case3 offset seen bytes hne e' hread =>
      obtain rfl : e' = e := by simpa using h
      exact ⟨[], [], bytes, rfl, .nil, by simpa using hne, hread⟩
  · rintro ⟨pieces, m, rest, rfl, hpieces, hrest, hdefect⟩
    rw [decodeFrom_append hpieces, decodeFrom_of_error hrest hdefect]

lemma decode_eq_error_iff_read (bytes : List UInt8) (e : DecodeError) :
    decode bytes = .error e ↔
      ∃ sound rest, bytes = sound ++ rest ∧ (∃ m, decode sound = .ok m) ∧ rest ≠ [] ∧
        Field.read sound.length rest = .error e := by
  rw [decode, decodeFrom_eq_error_iff]
  constructor
  · rintro ⟨pieces, m, rest, hb, hpieces, hrest, hread⟩
    have hm := (decode_eq_ok_iff pieces.flatten m).mpr ⟨pieces, rfl, hpieces⟩
    exact ⟨pieces.flatten, rest, hb, ⟨m, hm⟩, hrest, by rwa [Nat.zero_add] at hread⟩
  · rintro ⟨sound, rest, rfl, ⟨m, hm⟩, hrest, hread⟩
    obtain ⟨pieces, rfl, hpieces⟩ := (decode_eq_ok_iff sound m).mp hm
    exact ⟨pieces, m, rest, rfl, hpieces, hrest, by rwa [Nat.zero_add]⟩

end Telemetry.Wire.Message
