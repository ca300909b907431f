import Telemetry.Proofs.Measurement.Envelope
import Telemetry.Proofs.Resolution.Conservation
import Telemetry.Proofs.Wire.Truncation

namespace Telemetry.Resolution

open Measurement Schema Time Wire

variable {lookup : Lookup} {fallback : Instant} {bytes kept : List UInt8} {m : Message}
  {pieces : List (List UInt8)} {r : Resolved}

lemma exists_decoded (hr : resolveBatch lookup fallback bytes = .ok r) :
    ∃ m, Message.decode bytes = .ok m ∧
      r = resolve lookup fallback (m.filterMap Field.measurement?) := by
  obtain ⟨ms, hms, rfl⟩ := (resolveBatch_eq_ok_iff _ _ _ _).mp hr
  obtain ⟨m, -, hm, -, -⟩ := (decodeAll_eq_ok_iff _ _).mp hms
  exact ⟨m, hm, by rw [eq_of_decodeAll hm hms]⟩

lemma resolveBatch_kept (hm : Message.decode bytes = .ok m) (hp : Message.Layout bytes m pieces)
    (hr : resolveBatch lookup fallback bytes = .ok r) (hkept : kept <+: bytes) :
    (∃ field e, resolveBatch lookup fallback kept = .error e ∧ DecodeError.CutsOff field e) ∨
      ∃ k, kept = (pieces.take k).flatten ∧ resolveBatch lookup fallback kept =
        .ok (resolve lookup fallback ((m.take k).filterMap Field.measurement?)) := by
  by_cases hcut : ∃ k, kept = (pieces.take k).flatten
  · obtain ⟨k, hk⟩ := hcut
    obtain ⟨ms, hms, -⟩ := (resolveBatch_eq_ok_iff _ _ _ _).mp hr
    have hfewer := decodeAll_of_take hm hms (hp.decode_between hk)
    exact Or.inr ⟨k, hk, (resolveBatch_eq_ok_iff _ _ _ _).mpr ⟨_, hfewer, rfl⟩⟩
  · obtain ⟨-, -, -, f, e, -, -, -, -, -, he, hcut⟩ := hp.decode_inside hkept (not_exists.mp hcut)
    refine Or.inl ⟨f.number, e, ?_, hcut⟩
    simp only [resolveBatch, decodeAll_of_error he]

theorem truncated_stream (bytes : List UInt8) :
    (∀ m, Message.decode bytes = .ok m →
      (∃ pieces, Message.Layout bytes m pieces) ∧
      ∀ pieces, Message.Layout bytes m pieces → ∀ kept, kept <+: bytes →
        (∀ k, kept = (pieces.take k).flatten → Message.decode kept = .ok (m.take k)) ∧
        ((∀ k, kept ≠ (pieces.take k).flatten) →
          ∃ k q r f e, kept = (pieces.take k).flatten ++ q ∧ q ≠ [] ∧ r ≠ [] ∧
            pieces[k]? = some (q ++ r) ∧ m[k]? = some f ∧
            Message.decode kept = .error e ∧ e.CutsOff f.number)) ∧
    ∀ lookup fallback r, resolveBatch lookup fallback bytes = .ok r →
      ∃ m pieces, Message.decode bytes = .ok m ∧ Message.Layout bytes m pieces ∧
        r = resolve lookup fallback (m.filterMap Field.measurement?) ∧
        ∀ kept, kept <+: bytes →
          (∃ field e, resolveBatch lookup fallback kept = .error e ∧
            DecodeError.CutsOff field e) ∨
          ∃ k, kept = (pieces.take k).flatten ∧ resolveBatch lookup fallback kept =
            .ok (resolve lookup fallback ((m.take k).filterMap Field.measurement?)) := by
  constructor
  · intro m hm
    refine ⟨Message.exists_layout hm, ?_⟩
    intro pieces hp kept hkept
    exact ⟨fun k hk => hp.decode_between hk, hp.decode_inside hkept⟩
  · intro lookup fallback r hr
    obtain ⟨m, hm, hresolved⟩ := exists_decoded hr
    obtain ⟨pieces, hp⟩ := Message.exists_layout hm
    exact ⟨m, pieces, hm, hp, hresolved, fun kept hkept => resolveBatch_kept hm hp hr hkept⟩

example : Message.decode [10, 2, 8, 7, 10, 2, 8] = .error (.truncatedBytes 1 2 1 6) := by cbv

end Telemetry.Resolution
