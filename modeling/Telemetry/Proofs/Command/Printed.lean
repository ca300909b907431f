import Telemetry.Command.Ingest
import Telemetry.Proofs.Ingest.Announcement
import Telemetry.Proofs.Ingest.ReadBack

namespace Telemetry

open Time

namespace Json.Value

/-- How a binary64 number stands in a document: as a decimal that rounds to it, or as null. -/
inductive Shows : Value → Number.Binary64 → Prop
  | number {n : Number.Numeral} {x : Number.Binary64} :
      x.Finite → n.Denotes x → Shows (.number n) x
  | null {x : Number.Binary64} : ¬ x.Finite → Shows .null x

lemma shows_float64 (x : Number.Binary64) : (float64 x).Shows x := by
  by_cases hx : x.Finite
  · rw [Number.Binary64.float64_of_finite hx]
    exact .number hx (Number.Binary64.denotes_numeral hx)
  · rw [Number.Binary64.float64_of_not_finite hx]
    exact .null hx

lemma sorted_float64 (x : Number.Binary64) : (float64 x).sorted = float64 x := by
  cases h : float64 x with
  | number | null => rfl
  | _ => exact absurd (h ▸ shows_float64 x) nofun

end Json.Value

namespace Ingest

open Json

def Report.readBack (r : Report) : Report := { r with timestamp := r.timestamp.readBack }

structure Report.Fits (r : Report) : Prop where
  stored : r.stored < 2 ^ 64
  skippedUnknown : r.skippedUnknown < 2 ^ 64
  skippedEmpty : r.skippedEmpty < 2 ^ 64
  storageFailures : r.storageFailures < 2 ^ 64

lemma Report.legal_toJson (r : Report) : r.toJson.Legal := by
  simp [toJson, Instant.toJson]

lemma Report.ofJson?_sorted {r : Report} (h : r.Fits) :
    ofJson? r.toJson.sorted = some r.readBack := by
  have hfields : r.toJson.sorted.fields? ["stored", "skipped_unknown", "skipped_empty",
      "storage_failures", "timestamp"] = some [some (.nat r.stored), some (.nat r.skippedUnknown),
        some (.nat r.skippedEmpty), some (.nat r.storageFailures), some r.timestamp.toJson] := by
    rw [toJson, Value.fields?_sorted_record]
    simp [member?, Instant.toJson]
  rw [ofJson?, hfields]
  simp only [countOfJson?_nat h.stored, countOfJson?_nat h.skippedUnknown,
    countOfJson?_nat h.skippedEmpty, countOfJson?_nat h.storageFailures, Instant.ofJson?_toJson]
  rfl

lemma Event.ofJson?_sorted {e : Event} (hcount : e.count < 2 ^ 64) :
    ofJson? e.toJson.sorted = some e.readBack := by
  refine ofJson?_of_fields hcount ?_
  rw [toJson, Value.fields?_sorted_record]
  simp [member?, Instant.toJson]

def Record.PrintedAs (k : Record) (v : Value) : Prop :=
  ∃ time value created, v.fields? ["device_id", "timestamp", "type", "value", "unit",
      "created_at"] = some [some (.string (some k.device)), some time, some (.string (some k.kind)),
        some value, some (.string (some k.unit)), some created] ∧
    value.Shows k.value ∧ Instant.ofJson? time = some k.timestamp.readBack ∧
    Instant.ofJson? created = some k.createdAt.readBack

lemma Record.printedAs_sorted (k : Record) : k.PrintedAs k.toJson.sorted := by
  have hfields : k.toJson.sorted.fields? ["device_id", "timestamp", "type", "value", "unit",
      "created_at"] = some [some (.text k.device), some k.timestamp.toJson, some (.text k.kind),
        some (.float64 k.value), some (.text k.unit), some k.createdAt.toJson] := by
    rw [toJson, Value.fields?_sorted_record]
    simp [member?, Instant.toJson, Value.sorted_float64]
  exact ⟨_, _, _, hfields, Value.shows_float64 _, Instant.ofJson?_toJson _,
    Instant.ofJson?_toJson _⟩

end Ingest

namespace Command

open Ingest Json

namespace Trial

variable (t : Trial)

/-- Whoever looks into the document finds the report, a record for each that was stored, and the
events with their topics, all under the names that are known for them. -/
structure PrintedAs (v : Value) : Prop where
  parts : ∃ report records events,
    v.fields? ["report", "records", "events"] =
      some [some report, some (.array records), some (.array events)] ∧
    Report.ofJson? report = some t.report.readBack ∧
    List.Forall₂ Record.PrintedAs t.records records ∧
    List.Forall₂ (fun e v => ∃ event, v.fields? ["topic", "event"] =
        some [some (.string (some e.1)), some event] ∧ Event.ofJson? event = some e.2.readBack)
      t.events events

lemma legal_toJson : t.toJson.Legal := by
  have hmetrics : ∀ m ∈ (t.metrics.map fun m => ("metrics", Value.text m.text)).toList,
      m.2.Legal := by
    cases t.metrics <;> simp
  simp only [toJson, Value.legal_record_iff, List.forall_mem_append, List.forall_mem_cons,
    Value.legal_array_iff, List.forall_mem_map]
  exact ⟨⟨t.report.legal_toJson, fun k _ => k.legal_toJson,
    fun e _ => ⟨Value.legal_text _, e.2.legal_toJson, List.forall_mem_nil _⟩,
    List.forall_mem_nil _⟩, hmetrics⟩

variable {t}

lemma printedAs_sorted (hreport : t.report.Fits) (hevents : ∀ e ∈ t.events, e.2.count < 2 ^ 64) :
    t.PrintedAs t.toJson.sorted := by
  refine ⟨t.report.toJson.sorted, t.records.map fun k => k.toJson.sorted,
    t.events.map fun e => (Value.record [("topic", .text e.1), ("event", e.2.toJson)]).sorted,
    ?_, Report.ofJson?_sorted hreport, ?_, ?_⟩
  · rw [toJson, Value.fields?_sorted_record]
    cases t.metrics <;>
      simp [member?, Value.sorted_array, Function.comp_def]
  · rw [List.forall₂_map_right_iff, List.forall₂_same]
    exact fun k _ => k.printedAs_sorted
  · rw [List.forall₂_map_right_iff, List.forall₂_same]
    intro e he
    have hfields : (Value.record [("topic", .text e.1), ("event", e.2.toJson)]).sorted.fields?
        ["topic", "event"] = some [some (.text e.1), some e.2.toJson.sorted] := by
      rw [Value.fields?_sorted_record]
      simp [member?]
    exact ⟨_, hfields, Event.ofJson?_sorted (hevents e he)⟩

theorem parse_pretty_sorted : parse t.toJson.sorted.pretty = some t.toJson.sorted :=
  parse_pretty (Value.legal_sorted t.legal_toJson)

end Trial

end Command

end Telemetry
