import Mathlib.Data.Int.Notation
import Mathlib.Data.List.Forall2
import Telemetry.Proofs.Measurement.Coercion
import Telemetry.Proofs.Resolution.Conservation

/-! Each measurement of a batch falls into one of four classes, and the first one that is named for
the time decides on the time of the batch. -/

namespace Telemetry

open Schema Time Wire

namespace Time

def Representable (millis : ℤ) : Prop :=
  Date.toDays ⟨firstYear, 1, 1⟩ * 86400000 ≤ millis ∧
    millis < Date.toDays ⟨lastYear + 1, 1, 1⟩ * 86400000

instance (millis : ℤ) : Decidable (Representable millis) :=
  inferInstanceAs (Decidable (_ ∧ _))

lemma representable_iff (millis : ℤ) : Representable millis ↔
    earliest ≤ millis * nanosPerMilli ∧ millis * nanosPerMilli ≤ latest := by
  have hfirst : Date.toDays ⟨firstYear, 1, 1⟩ = -96465292 := by decide
  have hlast : Date.toDays ⟨lastYear + 1, 1, 1⟩ = 95026237 := by decide
  simp only [Representable, hfirst, hlast, earliest, latest, nanosPerSecond, nanosPerMilli]
  omega

lemma Instant.ofMillis?_of_representable {millis : ℤ} (h : Representable millis) :
    ∃ t, ofMillis? millis = some t ∧ t.nanos = millis * nanosPerMilli := by
  have hrange := (representable_iff millis).mp h
  exact ⟨⟨millis * nanosPerMilli, false, hrange.1, hrange.2⟩, dif_pos hrange, rfl⟩

lemma Instant.representable_of_ofMillis? {millis : ℤ} {t : Instant}
    (h : ofMillis? millis = some t) : Representable millis := by
  rw [representable_iff]
  by_contra hrange
  have hnone : ofMillis? millis = none := dif_neg hrange
  simp [hnone] at h

lemma Instant.millis_of_nanos {t : Instant} {millis : ℤ} (h : t.nanos = millis * nanosPerMilli) :
    t.millis = millis := by
  rw [Instant.millis, h]
  exact Int.mul_ediv_cancel millis (by decide)

end Time

namespace Measurement.Value

def Fits (n : ℤ) : Prop :=
  Int64.minValue.toInt ≤ n ∧ n ≤ Int64.maxValue.toInt

instance (n : ℤ) : Decidable (Fits n) :=
  inferInstanceAs (Decidable (_ ∧ _))

lemma epochMillis?_eq_some_iff (v : Value) (n : ℤ) :
    v.epochMillis? = some n ↔ v.IsInteger n ∧ Fits n := by
  have hmin : Int64.minValue.toInt = -9223372036854775808 := by decide
  have hmax : Int64.maxValue.toInt = 9223372036854775807 := by decide
  simp only [Fits, hmin, hmax]
  constructor
  · intro h
    cases v with
    | int32 x =>
      obtain rfl : x.toInt = n := by simpa [epochMillis?] using h
      exact ⟨.int32 x, by have := x.le_toInt; omega, by have := x.toInt_lt; omega⟩
    | int64 x =>
      obtain rfl : x.toInt = n := by simpa [epochMillis?] using h
      exact ⟨.int64 x, by have := x.le_toInt; omega, by have := x.toInt_lt; omega⟩
    | uint32 x =>
      obtain rfl : (x.toNat : ℤ) = n := by simpa [epochMillis?] using h
      exact ⟨.uint32 x, by omega, by have := x.toNat_lt; omega⟩
    | uint64 x =>
      obtain ⟨hx, rfl⟩ : x.toNat < 9223372036854775808 ∧ (x.toNat : ℤ) = n := by
        simpa [epochMillis?] using h
      exact ⟨.uint64 x, by omega, by omega⟩
    | float32 x | float64 x | bool x => simp [epochMillis?] at h
  · rintro ⟨hv, hmin, hmax⟩
    cases hv with
    | int32 x | int64 x | uint32 x => rfl
    | uint64 x => exact if_pos (by omega)

end Measurement.Value

namespace Resolution

def NamedTimestamp (lookup : Lookup) (m : Measurement) : Prop :=
  ∃ e, lookup.get? m.id = some e ∧ e.name = "timestamp"

inductive Class where
  | unknown
  | timestamp
  | empty
  | reading

/-- The class of a measurement, and what comes of it there. -/
inductive Falls (lookup : Lookup) (m : Measurement) : Class → Outcome → Prop
  | unknown : lookup.get? m.id = none → Falls lookup m .unknown (.skipped ⟨m.id, .unknownId⟩)
  | timestamp : NamedTimestamp lookup m → Falls lookup m .timestamp .timestamp
  | empty {e : Entry} : lookup.get? m.id = some e → e.name ≠ "timestamp" → m.value = none →
      Falls lookup m .empty (.skipped ⟨m.id, .missingValue⟩)
  | reading {e : Entry} {v : Measurement.Value} {x : Number.Binary64} :
      lookup.get? m.id = some e → e.name ≠ "timestamp" → m.value = some v → v.CoercesTo x →
      Falls lookup m .reading (.reading ⟨m.id, e.name, x, e.unit⟩)

inductive Dated (lookup : Lookup) (ms : List Measurement) (millis : ℤ) : Prop
  | intro {before after : List Measurement} {m : Measurement} {v : Measurement.Value} :
      ms = before ++ m :: after → (∀ x ∈ before, ¬ NamedTimestamp lookup x) →
      NamedTimestamp lookup m → m.value = some v → v.IsInteger millis →
      Measurement.Value.Fits millis → Representable millis → Dated lookup ms millis

variable {lookup : Lookup} {m : Measurement}

lemma isTimestamp_iff (e : Entry) : e.isTimestamp = true ↔ e.name = "timestamp" := by
  simp [Entry.isTimestamp, Entry.timestampName]

lemma carriesTimestamp_iff_named (lookup : Lookup) (m : Measurement) :
    carriesTimestamp lookup m = true ↔ NamedTimestamp lookup m := by
  simp only [carriesTimestamp, NamedTimestamp, Option.any_eq_true, isTimestamp_iff]

instance (lookup : Lookup) (m : Measurement) : Decidable (NamedTimestamp lookup m) :=
  decidable_of_iff _ (carriesTimestamp_iff_named lookup m)

lemma not_carriesTimestamp_iff (lookup : Lookup) (m : Measurement) :
    (!carriesTimestamp lookup m) = true ↔ ¬ NamedTimestamp lookup m := by
  rw [Bool.not_eq_true', ← Bool.not_eq_true, carriesTimestamp_iff_named]

lemma falls_outcome (lookup : Lookup) (m : Measurement) :
    ∃ c, Falls lookup m c (outcome lookup m) := by
  cases he : lookup.get? m.id with
  | none =>
    refine ⟨.unknown, ?_⟩
    simp only [outcome, he]
    exact .unknown he
  | some e =>
    by_cases hn : e.name = "timestamp"
    · refine ⟨.timestamp, ?_⟩
      simp only [outcome, he, (isTimestamp_iff e).mpr hn, if_true]
      exact .timestamp ⟨e, he, hn⟩
    · have ht : e.isTimestamp = false := Bool.not_eq_true _ ▸ mt (isTimestamp_iff e).mp hn
      simp only [outcome, he, ht, Bool.false_eq_true, if_false]
      cases hv : m.value with
      | none => exact ⟨.empty, .empty he hn hv⟩
      | some v => exact ⟨.reading, .reading he hn hv v.coercesTo_toBinary64⟩

lemma Falls.class_unique {c c' : Class} {o o' : Outcome} (h : Falls lookup m c o)
    (h' : Falls lookup m c' o') : c' = c := by
  rcases h with he | ⟨e, he, hn⟩ | ⟨he, hn, hv⟩ | ⟨he, hn, hv, -⟩ <;>
    rcases h' with he' | ⟨e', he', hn'⟩ | ⟨he', hn', hv'⟩ | ⟨he', hn', hv', -⟩ <;>
    grind

lemma timestamp?_of_dated {ms : List Measurement} {millis : ℤ} (h : Dated lookup ms millis) :
    ∃ t, timestamp? lookup ms = some t ∧ t.nanos = millis * nanosPerMilli := by
  cases h with
  | @intro before after m v hms hbefore hm hv hint hfits hrange =>
    have hfind : ms.find? (carriesTimestamp lookup) = some m := by
      refine List.find?_eq_some_iff_append.mpr
        ⟨(carriesTimestamp_iff_named lookup m).mpr hm, before, after, hms, ?_⟩
      intro x hx
      exact (not_carriesTimestamp_iff lookup x).mpr (hbefore x hx)
    have hmillis := (Measurement.Value.epochMillis?_eq_some_iff v millis).mpr ⟨hint, hfits⟩
    obtain ⟨t, ht, hnanos⟩ := Instant.ofMillis?_of_representable hrange
    refine ⟨t, ?_, hnanos⟩
    simp only [timestamp?, hfind, Option.bind_some, hv, hmillis, ht]

lemma dated_of_timestamp? {ms : List Measurement} {t : Instant}
    (h : timestamp? lookup ms = some t) : ∃ millis, Dated lookup ms millis := by
  simp only [timestamp?, Option.bind_eq_some_iff] at h
  obtain ⟨m, hfind, millis, ⟨v, hv, hmillis⟩, ht⟩ := h
  obtain ⟨hm, before, after, hms, hbefore⟩ := List.find?_eq_some_iff_append.mp hfind
  obtain ⟨hint, hfits⟩ := (Measurement.Value.epochMillis?_eq_some_iff v millis).mp hmillis
  refine ⟨millis, .intro hms ?_ ((carriesTimestamp_iff_named lookup m).mp hm) hv hint hfits
    (Instant.representable_of_ofMillis? ht)⟩
  intro x hx
  exact (not_carriesTimestamp_iff lookup x).mp (hbefore x hx)

lemma skippedCount_total (r : Resolved) :
    r.skippedCount .unknownId + r.skippedCount .missingValue = r.skipped.length := by
  have hother : ∀ s : Skipped,
      decide (s.reason = .missingValue) = !decide (s.reason = .unknownId) := by
    intro s
    cases s.reason <;> rfl
  have hsplit := r.skipped.length_eq_countP_add_countP (·.reason = .unknownId)
  simp only [Bool.not_eq_true, Bool.decide_eq_false, ← hother] at hsplit
  exact hsplit.symm

lemma readings_add_skipped (lookup : Lookup) (fallback : Instant) (ms : List Measurement) :
    (resolve lookup fallback ms).readings.length + (resolve lookup fallback ms).skipped.length +
      ms.countP (NamedTimestamp lookup ·) = ms.length := by
  have hnamed : ms.countP (NamedTimestamp lookup ·) = ms.countP (carriesTimestamp lookup) := by
    apply List.countP_congr
    intro m _
    rw [decide_eq_true_iff, carriesTimestamp_iff_named]
  have hlength := resolve_length lookup fallback ms
  have hskipped := skippedCount_total (resolve lookup fallback ms)
  omega

lemma resolve_of_dated {ms : List Measurement} {millis : ℤ} (h : Dated lookup ms millis)
    (fallback : Instant) : (resolve lookup fallback ms).source = .payload ∧
      (resolve lookup fallback ms).timestamp.nanos = millis * nanosPerMilli := by
  obtain ⟨t, ht, hnanos⟩ := timestamp?_of_dated h
  simp only [resolve, ht, Option.isSome_some, if_true, Option.getD_some, hnanos, and_self]

lemma resolve_of_not_dated {ms : List Measurement} (h : ¬ ∃ millis, Dated lookup ms millis)
    (fallback : Instant) : (resolve lookup fallback ms).source = .fallback ∧
      (resolve lookup fallback ms).timestamp = fallback := by
  cases ht : timestamp? lookup ms with
  | none => simp [resolve, ht]
  | some t => exact absurd (dated_of_timestamp? ht) h

lemma source_eq_payload_iff (lookup : Lookup) (fallback : Instant) (ms : List Measurement) :
    (resolve lookup fallback ms).source = .payload ↔ ∃ millis, Dated lookup ms millis := by
  constructor
  · intro hsource
    by_contra h
    simp [(resolve_of_not_dated h fallback).1] at hsource
  · rintro ⟨millis, h⟩
    exact (resolve_of_dated h fallback).1

theorem resolveBatch_classifies {bytes : List UInt8} {ms : List Measurement}
    (hms : Measurement.decodeAll bytes = .ok ms) (lookup : Lookup) (fallback : Instant) :
    ∃ (r : Resolved) (outcomes : List Outcome),
      resolveBatch lookup fallback bytes = .ok r ∧
      List.Forall₂ (fun m o => ∃ c, Falls lookup m c o) ms outcomes ∧
      (∀ m ∈ ms, ∃! c, ∃ o, Falls lookup m c o) ∧
      r.readings = outcomes.filterMap Outcome.reading? ∧
      r.skipped = outcomes.filterMap Outcome.skipped? ∧
      r.readings.length + r.skipped.length + ms.countP (NamedTimestamp lookup ·) = ms.length ∧
      (r.source = .payload ↔ ∃ millis, Dated lookup ms millis) ∧
      (∀ millis, Dated lookup ms millis →
        r.timestamp.millis = millis ∧ r.timestamp.nanos = millis * nanosPerMilli) ∧
      ((¬ ∃ millis, Dated lookup ms millis) →
        r.source = .fallback ∧ r.timestamp = fallback) := by
  have hresolved := (resolveBatch_eq_ok_iff lookup fallback bytes _).mpr ⟨ms, hms, rfl⟩
  refine ⟨resolve lookup fallback ms, ms.map (outcome lookup), hresolved, ?_, ?_, ?_, ?_,
    readings_add_skipped lookup fallback ms, source_eq_payload_iff lookup fallback ms, ?_,
    fun h => resolve_of_not_dated h fallback⟩
  · rw [List.forall₂_map_right_iff, List.forall₂_same]
    exact fun m _ => falls_outcome lookup m
  · intro m _
    obtain ⟨c, h⟩ := falls_outcome lookup m
    exact ⟨c, ⟨_, h⟩, fun c' ⟨_, h'⟩ => h.class_unique h'⟩
  · rw [List.filterMap_map]
    rfl
  · rw [List.filterMap_map]
    rfl
  · intro millis h
    have hnanos := (resolve_of_dated h fallback).2
    exact ⟨Instant.millis_of_nanos hnanos, hnanos⟩

def pumpLookup : Lookup :=
  Lookup.ofEntries [⟨2, "flow", "float32", "l/s"⟩, ⟨1, "timestamp", "int64", ""⟩]

def pumpBatch : List UInt8 :=
  [10, 7, 8, 2, 21, 0, 0, 128, 65, 10, 2, 8, 9, 10, 5, 8, 1, 40, 232, 7]

def pumpMeasurements : List Measurement :=
  [⟨2, some (.float32 ⟨0x41800000⟩)⟩, ⟨9, none⟩, ⟨1, some (.int64 1000)⟩]

theorem resolveBatch_classifies_pump : ∃ r,
    Measurement.decodeAll pumpBatch = .ok pumpMeasurements ∧
    resolveBatch pumpLookup .epoch pumpBatch = .ok r ∧
    r.readings.length + r.skipped.length = 2 ∧ r.source = .payload ∧ r.timestamp.millis = 1000 := by
  have hms : Measurement.decodeAll pumpBatch = .ok pumpMeasurements := by cbv
  obtain ⟨r, outcomes, hr, -, -, -, -, htotal, hsource, htime, -⟩ :=
    resolveBatch_classifies hms pumpLookup .epoch
  have hsplit : pumpMeasurements = pumpMeasurements.take 2 ++ ⟨1, some (.int64 1000)⟩ :: [] := rfl
  have hdated : Dated pumpLookup pumpMeasurements 1000 :=
    .intro hsplit (by decide) (by decide) rfl (.int64 1000) (by decide) (by decide)
  have hnamed : pumpMeasurements.countP (NamedTimestamp pumpLookup ·) = 1 := by decide
  rw [hnamed] at htotal
  exact ⟨r, hms, hr, Nat.succ.inj htotal, hsource.mpr ⟨1000, hdated⟩, (htime 1000 hdated).1⟩

end Resolution

end Telemetry
