import Mathlib.Data.List.Find
import Telemetry.Proofs.Resolution.Splitting
import Telemetry.Proofs.Schema.Lookup

namespace Telemetry

namespace Schema

def Declares (s : Schema) (id : UInt32) (name unit : String) : Prop :=
  ∃ e ∈ s.entries, e.id = id ∧ e.name = name ∧ e.unit = unit

def AgreeOn (s t : Schema) (id : UInt32) : Prop :=
  ∀ name unit, s.Declares id name unit ↔ t.Declares id name unit

def Entry.view (e : Entry) : String × String := (e.name, e.unit)

variable {s t : Schema} {id : UInt32}

lemma declares_iff (hs : (s.entries.map (·.id)).Nodup) (id : UInt32) (name unit : String) :
    s.Declares id name unit ↔ (s.lookup.get? id).map Entry.view = some (name, unit) := by
  simp only [Declares, Option.map_eq_some_iff, get?_lookup_eq_some_iff hs, Entry.view,
    Prod.mk.injEq, and_assoc]

lemma agreeOn_iff (hs : (s.entries.map (·.id)).Nodup) (ht : (t.entries.map (·.id)).Nodup) :
    s.AgreeOn t id ↔
      (s.lookup.get? id).map Entry.view = (t.lookup.get? id).map Entry.view := by
  simp only [AgreeOn, declares_iff hs, declares_iff ht]
  constructor
  · intro h
    apply Option.ext
    rintro ⟨name, unit⟩
    exact h name unit
  · intro h name unit
    rw [h]

end Schema

namespace Resolution

open Measurement Schema Time Wire

variable {l l' : Lookup}

lemma outcome_congr {m : Measurement}
    (h : (l.get? m.id).map Entry.view = (l'.get? m.id).map Entry.view) :
    outcome l m = outcome l' m := by
  unfold outcome
  cases he : l.get? m.id with
  | none =>
    rw [he, Option.map_none, eq_comm, Option.map_eq_none_iff] at h
    rw [h]
  | some e =>
    rw [he, Option.map_some, eq_comm, Option.map_eq_some_iff] at h
    obtain ⟨e', he', hview⟩ := h
    obtain ⟨hname, hunit⟩ := Prod.mk.inj hview
    rw [he']
    simp only [Entry.isTimestamp, hname, hunit]
    rfl

lemma carriesTimestamp_congr {m : Measurement} (h : outcome l m = outcome l' m) :
    carriesTimestamp l m = carriesTimestamp l' m := by
  rw [Bool.eq_iff_iff, carriesTimestamp_iff, carriesTimestamp_iff, h]

lemma resolve_congr {ms : List Measurement} (h : ∀ m ∈ ms, outcome l m = outcome l' m)
    (fallback : Instant) : resolve l fallback ms = resolve l' fallback ms := by
  have htime : timestamp? l ms = timestamp? l' ms := by
    unfold timestamp?
    rw [List.find?_congr fun m hm => carriesTimestamp_congr (h m hm)]
  have hreadings : ms.filterMap (fun m => (outcome l m).reading?) =
      ms.filterMap fun m => (outcome l' m).reading? :=
    List.filterMap_congr fun m hm => congrArg Outcome.reading? (h m hm)
  have hskipped : ms.filterMap (fun m => (outcome l m).skipped?) =
      ms.filterMap fun m => (outcome l' m).skipped? :=
    List.filterMap_congr fun m hm => congrArg Outcome.skipped? (h m hm)
  simp only [resolve, htime, hreadings, hskipped]

lemma resolve_fallback (l : Lookup) (ms : List Measurement) (fallback fallback' : Instant) :
    resolve l fallback' ms =
      if (resolve l fallback ms).source = .fallback then
        { resolve l fallback ms with timestamp := fallback' }
      else resolve l fallback ms := by
  unfold resolve
  cases timestamp? l ms with
  | none => rfl
  | some t => rfl

theorem resolveBatch_depends {s t : Schema} (hs : s.validate = .ok ()) (ht : t.validate = .ok ())
    {body : List UInt8}
    (hagree : ∀ ms, decodeAll body = .ok ms → ∀ m ∈ ms, s.AgreeOn t m.id) :
    (∀ fallback, resolveBatch s.lookup fallback body = resolveBatch t.lookup fallback body) ∧
    (∀ (l l' : Lookup) (fallback fallback' : Instant) (e : DecodeError),
      resolveBatch l fallback body = .error e ↔ resolveBatch l' fallback' body = .error e) ∧
    ∀ (l : Lookup) (fallback fallback' : Instant),
      resolveBatch l fallback' body = (resolveBatch l fallback body).map fun r =>
        if r.source = .fallback then { r with timestamp := fallback' } else r := by
  have hs' := ((validate_eq_ok_iff s).mp hs).2.2.2
  have ht' := ((validate_eq_ok_iff t).mp ht).2.2.2
  refine ⟨fun fallback => ?_, fun l l' fallback fallback' e => ?_, fun l fallback fallback' => ?_⟩
  · unfold resolveBatch
    cases hms : decodeAll body with
    | error e => rfl
    | ok ms =>
      have houtcome : ∀ m ∈ ms, outcome s.lookup m = outcome t.lookup m :=
        fun m hm => outcome_congr ((agreeOn_iff hs' ht').mp (hagree ms hms m hm))
      exact congrArg Except.ok (resolve_congr houtcome fallback)
  · rw [resolveBatch_eq_error_iff, resolveBatch_eq_error_iff]
  · unfold resolveBatch
    cases decodeAll body with
    | error e => rfl
    | ok ms => exact congrArg Except.ok (resolve_fallback l ms fallback fallback')

def pumpSchema : Schema :=
  ⟨⟨"pump", "1"⟩, Table.ofList [("flow", ⟨2, "flow", "float32", "l/s"⟩),
    ("timestamp", ⟨1, "timestamp", "int64", ""⟩), ("heat", ⟨3, "heat", "float32", "K"⟩)], none⟩

def rearrangedSchema : Schema :=
  ⟨⟨"pump", "2"⟩, Table.ofList [("t", ⟨1, "timestamp", "uint64", ""⟩),
    ("f", ⟨2, "flow", "double", "l/s"⟩)], none⟩

theorem resolveBatch_depends_pump : pumpSchema.validate = .ok () ∧
    rearrangedSchema.validate = .ok () ∧ pumpSchema.lookup.get? 2 ≠ rearrangedSchema.lookup.get? 2 ∧
    (∀ m ∈ pumpMeasurements, pumpSchema.AgreeOn rearrangedSchema m.id) ∧
    resolveBatch pumpSchema.lookup .epoch pumpBatch =
      resolveBatch rearrangedSchema.lookup .epoch pumpBatch := by
  have hs : pumpSchema.validate = .ok () := by decide
  have ht : rearrangedSchema.validate = .ok () := by decide
  have hms : decodeAll pumpBatch = .ok pumpMeasurements := by cbv
  have hagree : ∀ m ∈ pumpMeasurements, pumpSchema.AgreeOn rearrangedSchema m.id := by
    intro m hm
    apply (agreeOn_iff (by decide) (by decide)).mpr
    revert m
    decide
  refine ⟨hs, ht, by decide, hagree, (resolveBatch_depends hs ht ?_).1 .epoch⟩
  intro ms h
  obtain rfl := Except.ok.inj (hms.symm.trans h)
  exact hagree

end Resolution

end Telemetry
