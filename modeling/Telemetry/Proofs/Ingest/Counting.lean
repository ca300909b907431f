import Mathlib.Algebra.Ring.Nat
import Mathlib.Data.List.Induction
import Telemetry.Proofs.Ingest.Accounting
import Telemetry.Proofs.Ingest.Failure

/-! What the metrics count is what the batches were answered, as long as no counter runs over. -/

namespace Telemetry

open Ingest Resolution

namespace IngestError

def isDecode : IngestError → Bool
  | decode _ => true
  | _ => false

def lacksSchema : IngestError → Bool
  | schema _ | schemaNotFound _ => true
  | _ => false

def isTooLarge : IngestError → Bool
  | bodyTooLarge .. => true
  | _ => false

lemma one_class {e : IngestError} (he : ∀ reason, e ≠ publish reason) :
    (if e.isDecode then 1 else 0) + (if e.lacksSchema then 1 else 0) +
      (if e.isTooLarge then 1 else 0) = 1 := by
  cases e with
  | publish reason => exact absurd rfl (he reason)
  | schemaNotFound _ | schema _ | bodyTooLarge _ _ | decode _ => rfl

end IngestError

namespace Ingest

def Report.skipped (r : Report) : SkipReason → Nat
  | .unknownId => r.skippedUnknown
  | .missingValue => r.skippedEmpty

abbrev Result := Except IngestError Report

def reports (rs : List Result) : List Report :=
  rs.filterMap Except.toOption

def refusals (rs : List Result) : List IngestError :=
  rs.filterMap fun
    | .error e => some e
    | .ok _ => none

def total (f : Report → Nat) (rs : List Result) : Nat :=
  ((reports rs).map f).sum

def noted (rs : List Result) : Nat :=
  (reports rs).length + (refusals rs).countP (·.isDecode) + (refusals rs).countP (·.lacksSchema)

section Append

variable (rs : List Result)

@[simp] lemma reports_append_ok (r : Report) : reports (rs ++ [.ok r]) = reports rs ++ [r] := by
  simp [reports, Except.toOption]

@[simp] lemma reports_append_error (e : IngestError) : reports (rs ++ [.error e]) = reports rs := by
  simp [reports, Except.toOption]

@[simp] lemma refusals_append_ok (r : Report) : refusals (rs ++ [.ok r]) = refusals rs := by
  simp [refusals]

@[simp] lemma refusals_append_error (e : IngestError) :
    refusals (rs ++ [.error e]) = refusals rs ++ [e] := by
  simp [refusals]

lemma countP_refusals_append_error (p : IngestError → Bool) (e : IngestError) :
    (refusals (rs ++ [.error e])).countP p = (refusals rs).countP p + if p e then 1 else 0 := by
  rw [refusals_append_error, List.countP_append, List.countP_singleton]

lemma total_append (f : Report → Nat) (rs' : List Result) :
    total f (rs ++ rs') = total f rs + total f rs' := by
  simp [total, reports]

@[simp] lemma total_singleton_ok (f : Report → Nat) (r : Report) : total f [.ok r] = f r := by
  simp [total, reports, Except.toOption]

@[simp] lemma total_append_ok (f : Report → Nat) (r : Report) :
    total f (rs ++ [.ok r]) = total f rs + f r := by
  rw [total_append, total_singleton_ok]

@[simp] lemma total_append_error (f : Report → Nat) (e : IngestError) :
    total f (rs ++ [.error e]) = total f rs := by
  rw [total, reports_append_error, total]

lemma noted_append_ok (r : Report) : noted (rs ++ [.ok r]) = noted rs + 1 := by
  rw [noted, noted, reports_append_ok, refusals_append_ok, List.length_append,
    List.length_singleton]
  omega

lemma noted_append_error (e : IngestError) : noted (rs ++ [.error e]) =
    noted rs + (if e.isDecode then 1 else 0) + if e.lacksSchema then 1 else 0 := by
  rw [noted, noted, reports_append_error, countP_refusals_append_error,
    countP_refusals_append_error]
  omega

lemma noted_le_length : noted rs ≤ rs.length := by
  induction rs using List.reverseRecOn with
  | nil => exact Nat.le_refl 0
  | append_singleton rs r ih =>
    rw [List.length_append, List.length_singleton]
    cases r with
    | ok report =>
      rw [noted_append_ok]
      omega
    | error e =>
      have hone : (if e.isDecode then 1 else 0) + (if e.lacksSchema then 1 else 0) ≤ 1 := by
        cases e <;> simp [IngestError.isDecode, IngestError.lacksSchema]
      rw [noted_append_error]
      omega

end Append

structure Fits (rs : List Result) : Prop where
  observed : noted rs < UInt64.size
  stored : total (·.stored) rs < UInt64.size
  skipped : ∀ reason, total (·.skipped reason) rs < UInt64.size

lemma Fits.of_append {rs : List Result} {r : Result} (h : Fits (rs ++ [r])) : Fits rs := by
  have hobserved := h.observed
  have hstored := h.stored
  have hskipped := h.skipped
  cases r with
  | error e =>
    rw [noted_append_error] at hobserved
    simp only [total_append_error] at hstored hskipped
    exact ⟨by omega, hstored, hskipped⟩
  | ok report =>
    rw [noted_append_ok] at hobserved
    simp only [total_append_ok] at hstored hskipped
    exact ⟨by omega, by omega, fun reason => by have := hskipped reason; omega⟩

lemma toNat_add_ofNat {c : UInt64} {n : Nat} (h : c.toNat + n < UInt64.size) :
    (c + UInt64.ofNat n).toNat = c.toNat + n := by
  have hn : (UInt64.ofNat n).toNat = n := UInt64.toNat_ofNat_of_lt' (by omega)
  rw [UInt64.toNat_add, hn]
  exact Nat.mod_eq_of_lt h

namespace Metrics

lemma sum_put (label : String) (v : UInt64) (es : List (String × UInt64)) :
    ((Table.put label v es).map (·.2.toNat)).sum + ((Table.find? label es).getD 0).toNat =
      (es.map (·.2.toNat)).sum + v.toNat := by
  induction es with
  | nil => simp [Table.put, Table.find?]
  | cons e es ih =>
    by_cases he : e.1 = label
    · simp only [Table.put, Table.find?, he, if_true, List.find?_cons, decide_true, List.map_cons,
        List.sum_cons, Option.map_some, Option.getD_some]
      omega
    · have hfind : Table.find? label (e :: es) = Table.find? label es := by
        simp [Table.find?, he]
      simp only [Table.put, he, if_false, hfind, List.map_cons, List.sum_cons]
      omega

def sum (t : Table String UInt64) : Nat :=
  (t.values.map UInt64.toNat).sum

lemma sum_bump (t : Table String UInt64) (label : String) (n : UInt64) :
    sum (bump t label n) + (tally t label).toNat = sum t + (tally t label + n).toNat := by
  have hput := sum_put label (tally t label + n) t.entries
  simpa [sum, Table.values, bump, Table.insert, tally, Table.get?, List.map_map,
    Function.comp_def] using hput

lemma tally_le_sum (t : Table String UInt64) (label : String) : (tally t label).toNat ≤ sum t := by
  have hput := sum_put label 0 t.entries
  have hsum : sum t = (t.entries.map (·.2.toNat)).sum := by
    simp [sum, Table.values, List.map_map, Function.comp_def]
  rw [hsum, tally, Table.get?]
  simp only [UInt64.toNat_zero, Nat.add_zero] at hput
  omega

lemma sum_bump_one {t : Table String UInt64} (label : String) (h : sum t + 1 < UInt64.size) :
    sum (bump t label 1) = sum t + 1 := by
  have hle := tally_le_sum t label
  have hlt : (tally t label).toNat + 1 < UInt64.size := by omega
  have hadd : (tally t label + 1).toNat = (tally t label).toNat + 1 := toNat_add_ofNat hlt
  have hbump := sum_bump t label 1
  omega

structure Series (t : Table String UInt64) (counts : SkipReason → Nat) : Prop where
  count : ∀ reason, (t.get? reason.name).map UInt64.toNat =
    if 0 < counts reason then some (counts reason) else none
  other : ∀ label, (∀ reason : SkipReason, reason.name ≠ label) → t.get? label = none

lemma name_injective {reason other : SkipReason} (h : reason.name = other.name) :
    reason = other := by
  cases reason <;> cases other <;> simp_all [SkipReason.name]

lemma Series.tally {t : Table String UInt64} {counts : SkipReason → Nat} (h : Series t counts)
    (reason : SkipReason) : (tally t reason.name).toNat = counts reason := by
  have hcount := h.count reason
  cases hg : t.get? reason.name with
  | some n =>
    rw [hg, Option.map_some] at hcount
    split at hcount
    · simpa [Metrics.tally, hg] using hcount
    · simp at hcount
  | none =>
    rw [hg, Option.map_none] at hcount
    split at hcount
    · simp at hcount
    · simp only [Metrics.tally, hg, Option.getD_none, UInt64.toNat_zero]
      omega

lemma Series.addSkipped {m : Metrics} {counts : SkipReason → Nat} (h : Series m.skipped counts)
    {reason : SkipReason} {n : Nat} (hfits : counts reason + n < UInt64.size) :
    Series (m.addSkipped reason n).skipped
      fun r => counts r + if r = reason then n else 0 := by
  by_cases hn : 0 < n
  · have hskipped : (m.addSkipped reason n).skipped = bump m.skipped reason.name (.ofNat n) := by
      simp only [Metrics.addSkipped, hn, if_true]
    have htally := h.tally reason
    have hsum : (Metrics.tally m.skipped reason.name + .ofNat n).toNat = counts reason + n := by
      rw [toNat_add_ofNat (by omega), htally]
    rw [hskipped]
    constructor
    · intro r
      rw [bump, Table.get?_insert]
      by_cases hr : r = reason
      · subst hr
        have hpos : 0 < counts r + n := by omega
        simp only [if_true, Option.map_some, hpos]
        exact congrArg some hsum
      · have hname : ¬ reason.name = r.name := fun hname => hr (name_injective hname).symm
        simp only [hname, hr, if_false, Nat.add_zero]
        exact h.count r
    · intro label hlabel
      rw [bump, Table.get?_insert, if_neg (hlabel reason)]
      exact h.other label hlabel
  · have hzero : n = 0 := by omega
    have hskipped : (m.addSkipped reason n).skipped = m.skipped := by
      simp only [Metrics.addSkipped, hn, if_false]
    rw [hskipped]
    simpa [hzero] using h

def after (m : Metrics) (size : Nat) : Result → Metrics
  | .error (.bodyTooLarge ..) => m
  | .error (.decode e) => (m.observeBatchSize size).countDecodeError e.kind
  | .error _ => m.observeBatchSize size
  | .ok r =>
    (((m.observeBatchSize size).countDecoded.addStored r.stored).addSkipped .unknownId
      r.skippedUnknown).addSkipped .missingValue r.skippedEmpty

structure Matches (m : Metrics) (rs : List Result) : Prop where
  stored : m.stored.toNat = total (·.stored) rs
  decoded : m.batchesDecoded.toNat = (reports rs).length
  skipped : Series m.skipped fun reason => total (·.skipped reason) rs
  decodeErrors : sum m.decodeErrors = (refusals rs).countP (·.isDecode)
  observed : m.batchSize.count.toNat = noted rs
  calls : rs.length = m.batchSize.count.toNat + (refusals rs).countP (·.isTooLarge)

lemma matches_empty : Matches empty [] where
  stored := rfl
  decoded := rfl
  skipped := ⟨fun _ => rfl, fun _ _ => rfl⟩
  decodeErrors := rfl
  observed := rfl
  calls := rfl

lemma addSkipped_kept (m : Metrics) (reason : SkipReason) (n : Nat) :
    (m.addSkipped reason n).stored = m.stored ∧
      (m.addSkipped reason n).batchesDecoded = m.batchesDecoded := by
  unfold addSkipped
  split <;> exact ⟨rfl, rfl⟩

lemma after_ok (m : Metrics) (size : Nat) (r : Report) :
    (m.after size (.ok r)).stored = m.stored + .ofNat r.stored ∧
      (m.after size (.ok r)).batchesDecoded = m.batchesDecoded + 1 ∧
      (m.after size (.ok r)).decodeErrors = m.decodeErrors ∧
      (m.after size (.ok r)).batchSize = m.batchSize.observe size := by
  simp only [after, addSkipped_kept, addSkipped_frame]
  exact ⟨rfl, rfl, rfl, rfl⟩

lemma after_error_kept (m : Metrics) (size : Nat) (e : IngestError) :
    (m.after size (.error e)).stored = m.stored ∧
      (m.after size (.error e)).batchesDecoded = m.batchesDecoded ∧
      (m.after size (.error e)).skipped = m.skipped := by
  cases e <;> exact ⟨rfl, rfl, rfl⟩

lemma batchSize_after_error (m : Metrics) (size : Nat) (e : IngestError) :
    (m.after size (.error e)).batchSize =
      if e.isTooLarge then m.batchSize else m.batchSize.observe size := by
  cases e <;> rfl

lemma sum_decodeErrors_after_error {m : Metrics} (size : Nat) (e : IngestError)
    (hroom : e.isDecode → sum m.decodeErrors + 1 < UInt64.size) :
    sum (m.after size (.error e)).decodeErrors =
      sum m.decodeErrors + if e.isDecode then 1 else 0 := by
  cases e with
  | decode e => exact sum_bump_one e.kind (hroom rfl)
  | schemaNotFound _ | schema _ | bodyTooLarge _ _ | publish _ => rfl

lemma Series.after_ok {m : Metrics} {counts : SkipReason → Nat} (h : Series m.skipped counts)
    (size : Nat) {r : Report} (hfits : ∀ reason, counts reason + r.skipped reason < UInt64.size) :
    Series (m.after size (.ok r)).skipped fun reason => counts reason + r.skipped reason := by
  have hcounted : Series ((m.observeBatchSize size).countDecoded.addStored r.stored).skipped
      counts := h
  have hunknown := hcounted.addSkipped (hfits .unknownId)
  have hempty : counts .missingValue + 0 + r.skipped .missingValue < UInt64.size :=
    hfits .missingValue
  have hboth := hunknown.addSkipped hempty
  have hcounts : (fun reason => (counts reason +
      if reason = .unknownId then r.skipped .unknownId else 0) +
        if reason = .missingValue then r.skipped .missingValue else 0) =
      fun reason => counts reason + r.skipped reason := by
    funext reason
    cases reason <;> simp
  rw [← hcounts]
  exact hboth

variable {m : Metrics} {rs : List Result}

lemma Matches.toNat_observe (h : Matches m rs) (hroom : noted rs + 1 < UInt64.size)
    (size : Nat) : (m.batchSize.observe size).count.toNat = noted rs + 1 := by
  rw [← h.observed] at hroom ⊢
  exact toNat_add_ofNat hroom

lemma Matches.after_ok (h : Matches m rs) (size : Nat) {r : Report}
    (hfits : Fits (rs ++ [.ok r])) : Matches (m.after size (.ok r)) (rs ++ [.ok r]) := by
  obtain ⟨hstored, hdecoded, herrors, hsize⟩ := m.after_ok size r
  have hroom : noted rs + 1 < UInt64.size := noted_append_ok rs r ▸ hfits.observed
  have hobserve := h.toNat_observe hroom size
  rw [← hsize] at hobserve
  constructor
  · have hlt := hfits.stored
    rw [total_append_ok, ← h.stored] at hlt
    rw [hstored, total_append_ok, ← h.stored, toNat_add_ofNat hlt]
  · have hlt : m.batchesDecoded.toNat + 1 < UInt64.size := by
      rw [h.decoded]
      unfold noted at hroom
      omega
    rw [hdecoded, reports_append_ok, List.length_append, ← h.decoded]
    exact toNat_add_ofNat hlt
  · have hskipped := hfits.skipped
    simp only [total_append_ok] at hskipped ⊢
    exact h.skipped.after_ok size hskipped
  · rw [herrors, refusals_append_ok, h.decodeErrors]
  · rw [hobserve, noted_append_ok]
  · have hcalls := h.calls
    have hobserved := h.observed
    rw [refusals_append_ok, List.length_append, List.length_singleton]
    omega

lemma Matches.after_error (h : Matches m rs) {e : IngestError}
    (size : Nat) (he : ∀ reason, e ≠ .publish reason) (hfits : Fits (rs ++ [.error e])) :
    Matches (m.after size (.error e)) (rs ++ [.error e]) := by
  obtain ⟨hstored, hdecoded, hskipped⟩ := m.after_error_kept size e
  have hclass := e.one_class he
  have hroom := hfits.observed
  rw [noted_append_error] at hroom
  -- A batch that is too large is the only one that is refused before its size is noted.
  have hcount : (m.after size (.error e)).batchSize.count.toNat =
      noted rs + if e.isTooLarge then 0 else 1 := by
    rw [batchSize_after_error]
    cases htoo : e.isTooLarge with
    | true => exact h.observed
    | false =>
      simp only [htoo, if_false, Bool.false_eq_true] at hclass ⊢
      exact h.toNat_observe (by omega) size
  constructor
  · rw [hstored, total_append_error, h.stored]
  · rw [hdecoded, reports_append_error, h.decoded]
  · rw [hskipped]
    simp only [total_append_error]
    exact h.skipped
  · have hlt : e.isDecode → sum m.decodeErrors + 1 < UInt64.size := by
      intro hdecode
      rw [h.decodeErrors]
      rw [if_pos hdecode] at hroom
      unfold noted at hroom
      omega
    rw [sum_decodeErrors_after_error size e hlt, countP_refusals_append_error, h.decodeErrors]
  · rw [hcount, noted_append_error]
    cases htoo : e.isTooLarge <;>
      simp only [htoo, if_true, if_false, Bool.false_eq_true] at hclass ⊢ <;> omega
  · have hcalls := h.calls
    have hobserved := h.observed
    rw [hcount, countP_refusals_append_error, List.length_append, List.length_singleton]
    cases htoo : e.isTooLarge <;>
      simp only [if_true, if_false, Bool.false_eq_true] <;> omega

end Metrics

end Ingest

end Telemetry
