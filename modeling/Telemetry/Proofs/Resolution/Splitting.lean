import Telemetry.Proofs.Measurement.Splitting
import Telemetry.Proofs.Resolution.Classes

namespace Telemetry.Resolution

open Measurement Schema Time Wire

variable {lookup : Lookup} {fallback : Instant}

lemma find?_carriesTimestamp_eq_none_iff (ms : List Measurement) :
    ms.find? (carriesTimestamp lookup) = none ↔ ¬ ∃ x ∈ ms, NamedTimestamp lookup x := by
  simp only [List.find?_eq_none, carriesTimestamp_iff_named, not_exists, not_and]

lemma timestamp?_append_of_named {ms : List Measurement}
    (h : ∃ x ∈ ms, NamedTimestamp lookup x) (ns : List Measurement) :
    timestamp? lookup (ms ++ ns) = timestamp? lookup ms := by
  unfold timestamp?
  rw [List.find?_append]
  cases hfind : ms.find? (carriesTimestamp lookup) with
  | none => exact absurd h ((find?_carriesTimestamp_eq_none_iff ms).mp hfind)
  | some x => rfl

lemma timestamp?_append_of_unnamed {ms : List Measurement}
    (h : ¬ ∃ x ∈ ms, NamedTimestamp lookup x) (ns : List Measurement) :
    timestamp? lookup (ms ++ ns) = timestamp? lookup ns := by
  unfold timestamp?
  rw [List.find?_append, (find?_carriesTimestamp_eq_none_iff ms).mpr h, Option.none_or]

lemma resolve_append_of_named {ms : List Measurement} (h : ∃ x ∈ ms, NamedTimestamp lookup x)
    (ns : List Measurement) :
    resolve lookup fallback (ms ++ ns) =
      { readings := (resolve lookup fallback ms).readings ++ (resolve lookup fallback ns).readings
        timestamp := (resolve lookup fallback ms).timestamp
        source := (resolve lookup fallback ms).source
        skipped := (resolve lookup fallback ms).skipped ++
          (resolve lookup fallback ns).skipped } := by
  simp only [resolve, List.filterMap_append, timestamp?_append_of_named h]

lemma resolve_append_of_unnamed {ms : List Measurement} (h : ¬ ∃ x ∈ ms, NamedTimestamp lookup x)
    (ns : List Measurement) :
    resolve lookup fallback (ms ++ ns) =
      { readings := (resolve lookup fallback ms).readings ++ (resolve lookup fallback ns).readings
        timestamp := (resolve lookup fallback ns).timestamp
        source := (resolve lookup fallback ns).source
        skipped := (resolve lookup fallback ms).skipped ++
          (resolve lookup fallback ns).skipped } := by
  simp only [resolve, List.filterMap_append, timestamp?_append_of_unnamed h]

lemma resolveBatch_eq_error_iff (lookup : Lookup) (fallback : Instant) (bytes : List UInt8)
    (e : DecodeError) :
    resolveBatch lookup fallback bytes = .error e ↔ decodeAll bytes = .error e := by
  unfold resolveBatch
  cases decodeAll bytes <;> simp

theorem resolveBatch_append {a : List UInt8} {ra : Resolved}
    (ha : resolveBatch lookup fallback a = .ok ra) (b : List UInt8) :
    ∃ (m : Message) (ms : List Measurement), Message.decode a = .ok m ∧ decodeAll a = .ok ms ∧
      (∀ rb, resolveBatch lookup fallback b = .ok rb →
        ∃ r, resolveBatch lookup fallback (a ++ b) = .ok r ∧
          r.readings = ra.readings ++ rb.readings ∧ r.skipped = ra.skipped ++ rb.skipped ∧
          ((∃ x ∈ ms, NamedTimestamp lookup x) →
            r.timestamp = ra.timestamp ∧ r.source = ra.source) ∧
          ((¬ ∃ x ∈ ms, NamedTimestamp lookup x) →
            r.timestamp = rb.timestamp ∧ r.source = rb.source)) ∧
      ∀ e, resolveBatch lookup fallback b = .error e →
        (∃ offset, e.offset? = some offset ∧
          (e.shift a.length).offset? = some (a.length + offset) ∧
          resolveBatch lookup fallback (a ++ b) = .error (e.shift a.length)) ∨
        ∃ index inner, e = .nested envelopeField index inner ∧
          resolveBatch lookup fallback (a ++ b) =
            .error (.nested envelopeField ((m.numbered envelopeField).length + index) inner) := by
  obtain ⟨ms, hms, rfl⟩ := (resolveBatch_eq_ok_iff _ _ _ _).mp ha
  obtain ⟨m, -, hm, -⟩ := (decodeAll_eq_ok_iff _ _).mp hms
  have happend := decodeAll_append hm hms b
  refine ⟨m, ms, hm, hms, ?_, ?_⟩
  · intro rb hb
    obtain ⟨ns, hns, rfl⟩ := (resolveBatch_eq_ok_iff _ _ _ _).mp hb
    rw [hns] at happend
    refine ⟨_, (resolveBatch_eq_ok_iff _ _ _ _).mpr ⟨ms ++ ns, happend, rfl⟩, ?_⟩
    by_cases hnamed : ∃ x ∈ ms, NamedTimestamp lookup x
    · rw [resolve_append_of_named hnamed]
      exact ⟨rfl, rfl, fun _ => ⟨rfl, rfl⟩, fun h => absurd hnamed h⟩
    · rw [resolve_append_of_unnamed hnamed]
      exact ⟨rfl, rfl, fun h => absurd h hnamed, fun _ => ⟨rfl, rfl⟩⟩
  · intro e hb
    have he := (resolveBatch_eq_error_iff _ _ _ _).mp hb
    rw [he] at happend
    have hwhole := (resolveBatch_eq_error_iff lookup fallback _ _).mpr happend
    rcases decodeAll_error_cases he with ⟨offset, hoffset⟩ | ⟨index, inner, rfl⟩
    · rw [DecodeError.behind_of_offset? hoffset] at hwhole
      refine Or.inl ⟨offset, hoffset, ?_, hwhole⟩
      rw [DecodeError.offset?_shift, hoffset]
      rfl
    · exact Or.inr ⟨index, inner, rfl, hwhole⟩

def brokenBatch : List UInt8 := [10, 2, 8, 7, 10, 1, 8]

theorem resolveBatch_append_broken : ∃ ra,
    resolveBatch pumpLookup .epoch pumpBatch = .ok ra ∧
    resolveBatch pumpLookup .epoch brokenBatch = .error (.nested 1 1 (.truncatedVarint 1)) ∧
    resolveBatch pumpLookup .epoch (pumpBatch ++ brokenBatch) =
      .error (.nested 1 4 (.truncatedVarint 1)) := by
  have hms : decodeAll pumpBatch = .ok pumpMeasurements := by cbv
  have hra := (resolveBatch_eq_ok_iff pumpLookup .epoch pumpBatch _).mpr ⟨_, hms, rfl⟩
  have hbroken : decodeAll brokenBatch = .error (.nested 1 1 (.truncatedVarint 1)) := by cbv
  have he := (resolveBatch_eq_error_iff pumpLookup .epoch brokenBatch _).mpr hbroken
  obtain ⟨m, ms, hm, -, -, hrefused⟩ := resolveBatch_append hra brokenBatch
  have hentries : Message.decode pumpBatch = .ok [⟨1, .bytes [8, 2, 21, 0, 0, 128, 65]⟩,
      ⟨1, .bytes [8, 9]⟩, ⟨1, .bytes [8, 1, 40, 232, 7]⟩] := by cbv
  obtain rfl := Except.ok.inj (hentries.symm.trans hm)
  rcases hrefused _ he with ⟨offset, hoffset, -⟩ | ⟨index, inner, heq, hwhole⟩
  · simp [DecodeError.offset?] at hoffset
  · obtain ⟨-, rfl, rfl⟩ := DecodeError.nested.inj heq
    exact ⟨_, hra, he, hwhole⟩

end Telemetry.Resolution
