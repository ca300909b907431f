import Mathlib.Tactic.Lemma
import Telemetry.Resolution.Basic

namespace Telemetry.Resolution

open Schema Time Wire

lemma resolveBatch_eq_ok_iff (lookup : Lookup) (fallback : Instant) (bytes : List UInt8)
    (r : Resolved) : resolveBatch lookup fallback bytes = .ok r ↔
      ∃ ms, Measurement.decodeAll bytes = .ok ms ∧ r = resolve lookup fallback ms := by
  cases h : Measurement.decodeAll bytes with
  | error e => simp [resolveBatch, h]
  | ok ms => simp [resolveBatch, h, eq_comm]

lemma carriesTimestamp_iff (lookup : Lookup) (m : Measurement) :
    carriesTimestamp lookup m = true ↔ outcome lookup m = .timestamp := by
  unfold carriesTimestamp outcome
  cases lookup.get? m.id with
  | none => simp
  | some e =>
    cases he : e.isTimestamp with
    | true => simp [he]
    | false => cases m.value <;> simp [he]

lemma readings_cons (lookup : Lookup) (fallback : Instant) (m : Measurement)
    (ms : List Measurement) :
    (resolve lookup fallback (m :: ms)).readings =
      (outcome lookup m).reading?.toList ++ (resolve lookup fallback ms).readings := by
  simp only [resolve, List.filterMap_cons]
  cases (outcome lookup m).reading? <;> rfl

lemma skipped_cons (lookup : Lookup) (fallback : Instant) (m : Measurement)
    (ms : List Measurement) :
    (resolve lookup fallback (m :: ms)).skipped =
      (outcome lookup m).skipped?.toList ++ (resolve lookup fallback ms).skipped := by
  simp only [resolve, List.filterMap_cons]
  cases (outcome lookup m).skipped? <;> rfl

lemma resolve_length (lookup : Lookup) (fallback : Instant) (ms : List Measurement) :
    (resolve lookup fallback ms).readings.length +
      (resolve lookup fallback ms).skippedCount .unknownId +
      (resolve lookup fallback ms).skippedCount .missingValue +
      ms.countP (carriesTimestamp lookup) = ms.length := by
  induction ms with
  | nil => rfl
  | cons m ms ih =>
    have hc := carriesTimestamp_iff lookup m
    simp only [Resolved.skippedCount, readings_cons, skipped_cons, List.length_append,
      List.countP_append, List.countP_cons, List.length_cons] at ih ⊢
    cases ho : outcome lookup m with
    | reading r =>
      have hn : carriesTimestamp lookup m = false := by simpa [ho] using hc
      simp only [Outcome.reading?, Outcome.skipped?, Option.toList_some, Option.toList_none,
        List.length_singleton, List.countP_nil, hn, Bool.false_eq_true, if_false]
      omega
    | skipped s =>
      have hn : carriesTimestamp lookup m = false := by simpa [ho] using hc
      have hs : [s].countP (·.reason = .unknownId) + [s].countP (·.reason = .missingValue) = 1 := by
        cases hr : s.reason <;> simp [hr]
      simp only [Outcome.reading?, Outcome.skipped?, Option.toList_some, Option.toList_none,
        List.length_nil, hn, Bool.false_eq_true, if_false]
      omega
    | timestamp =>
      have hn : carriesTimestamp lookup m = true := hc.mpr ho
      simp only [Outcome.reading?, Outcome.skipped?, Option.toList_none, List.length_nil,
        List.countP_nil, hn, if_true]
      omega

end Telemetry.Resolution
