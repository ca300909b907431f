import Telemetry.Ingest.Record
import Telemetry.Proofs.Resolution.ReadBack

namespace Telemetry

namespace Ingest

open Json Resolution Time

namespace Record

variable (k : Record)

structure ReadBack (k k' : Record) : Prop where
  device : k'.device = k.device
  timestamp : k'.timestamp = k.timestamp.readBack
  kind : k'.kind = k.kind
  unit : k'.unit = k.unit
  createdAt : k'.createdAt = k.createdAt.readBack
  value : k.value.ReadBack k'.value

lemma legal_toJson : k.toJson.Legal := by
  simp [toJson, Value.legal_float64, Instant.toJson]

lemma ofJson?_toJson : ofJson? k.toJson = (Value.float64 k.value).float64?.map
    fun y => ⟨k.device, k.timestamp.readBack, k.kind, y, k.unit, k.createdAt.readBack⟩ := by
  have hfields : k.toJson.fields? ["device_id", "timestamp", "type", "value", "unit",
      "created_at"] = some [some (.text k.device), some k.timestamp.toJson, some (.text k.kind),
        some (.float64 k.value), some (.text k.unit), some k.createdAt.toJson] := by
    rw [toJson, Value.fields?_record]
    simp [member?]
  rw [ofJson?, hfields]
  simp only [Value.text, Value.text?, Instant.ofJson?_toJson]
  cases (Value.float64 k.value).float64? <;> rfl

variable {k}

lemma ofJson?_of_finite (hk : k.value.Finite) :
    ∃ k', ofJson? k.toJson = some k' ∧ k.ReadBack k' := by
  obtain ⟨y, hy, hread⟩ := Value.float64?_of_finite hk
  refine ⟨⟨k.device, k.timestamp.readBack, k.kind, y, k.unit, k.createdAt.readBack⟩, ?_,
    rfl, rfl, rfl, rfl, rfl, hread⟩
  rw [ofJson?_toJson, hy, Option.map_some]

lemma ofJson?_of_not_finite (hk : ¬ k.value.Finite) : ofJson? k.toJson = none := by
  rw [ofJson?_toJson, Value.float64?_of_not_finite hk, Option.map_none]

end Record

lemma parse_text {v : Value} (hv : v.Legal) :
    ∀ text ∈ [v.render, v.pretty], parse text = some v := by
  simp [parse_render hv, parse_pretty hv]

/-- Any batch and any record, in either of the forms that its JSON is written in. The text can be
read if all values are finite, and only then. What is read has the same readings, skipped ids and
texts, and the same times but for leap seconds that do not end a minute. Each value has its sign and
lies at most three places from what it was, and it is just that if its digits make up an integer of
53 significant bits with a power of ten of at most 22. -/
theorem read_again (r : Resolved) (k : Record) :
    (∀ text ∈ [r.toJson.render, r.toJson.pretty],
      (((parse text).bind Resolved.ofJson?).isSome ↔ ∀ x ∈ r.readings, x.value.Finite) ∧
      ∀ r' ∈ (parse text).bind Resolved.ofJson?, r.ReadBack r') ∧
    ∀ text ∈ [k.toJson.render, k.toJson.pretty],
      (((parse text).bind Record.ofJson?).isSome ↔ k.value.Finite) ∧
      ∀ k' ∈ (parse text).bind Record.ofJson?, k.ReadBack k' := by
  constructor
  · intro text htext
    rw [parse_text r.legal_toJson text htext, Option.bind_some]
    by_cases hr : ∀ x ∈ r.readings, x.value.Finite
    · obtain ⟨r', hread, hsame⟩ := Resolved.ofJson?_of_finite hr
      simpa [hread, hsame] using hr
    · simp [Resolved.ofJson?_of_not_finite hr, hr]
  · intro text htext
    rw [parse_text k.legal_toJson text htext, Option.bind_some]
    by_cases hk : k.value.Finite
    · obtain ⟨k', hread, hsame⟩ := Record.ofJson?_of_finite hk
      simp [hread, hsame, hk]
    · simp [Record.ofJson?_of_not_finite hk, hk]

def heatLookup : Schema.Lookup :=
  Schema.Lookup.ofEntries [⟨2, "heat", "float32", "K"⟩]

def brokenBatch : List UInt8 :=
  [10, 7, 8, 2, 21, 0, 0, 192, 127]

def longBatch : List UInt8 :=
  [10, 7, 8, 2, 21, 170, 123, 204, 67]

def shortBatch : List UInt8 :=
  [10, 7, 8, 2, 21, 0, 0, 128, 65]

theorem not_read_again :
    (∃ r, resolveBatch heatLookup .epoch brokenBatch = .ok r ∧
      (parse r.toJson.render).bind Resolved.ofJson? = none) ∧
    (∃ r r', resolveBatch heatLookup .epoch longBatch = .ok r ∧
      (parse r.toJson.render).bind Resolved.ofJson? = some r' ∧
      r.readings.map (·.value) = [⟨0x40798f7540000000⟩] ∧
      r'.readings.map (·.value) = [⟨0x40798f7540000001⟩]) ∧
    ∃ r r', resolveBatch heatLookup .leapingNoon shortBatch = .ok r ∧
      (parse r.toJson.render).bind Resolved.ofJson? = some r' ∧ r'.timestamp ≠ r.timestamp := by
  have hbroken : resolveBatch heatLookup .epoch brokenBatch =
      .ok ⟨[⟨2, "heat", ⟨0x7FF8000000000000⟩, "K"⟩], .epoch, .fallback, []⟩ := by
    decide +kernel
  have hlong : resolveBatch heatLookup .epoch longBatch =
      .ok ⟨[⟨2, "heat", ⟨0x40798f7540000000⟩, "K"⟩], .epoch, .fallback, []⟩ := by
    decide +kernel
  have hshort : resolveBatch heatLookup .leapingNoon shortBatch =
      .ok ⟨[⟨2, "heat", ⟨0x4030000000000000⟩, "K"⟩], .leapingNoon, .fallback, []⟩ := by
    decide +kernel
  refine ⟨⟨_, hbroken, ?_⟩, ⟨_,
    ⟨[⟨2, "heat", ⟨0x40798f7540000001⟩, "K"⟩], .epoch, .fallback, []⟩, hlong, ?_, rfl, rfl⟩, ?_⟩
  · rw [parse_render (Resolved.legal_toJson _), Option.bind_some]
    exact Resolved.ofJson?_of_not_finite (by decide)
  · have hvalue : (Value.float64 ⟨0x40798f7540000000⟩).float64? = some ⟨0x40798f7540000001⟩ := by
      decide +kernel
    rw [parse_render (Resolved.legal_toJson _), Option.bind_some, Resolved.ofJson?_toJson]
    simp only [Value.list?, List.map_cons, List.map_nil, List.mapM_cons, List.mapM_nil,
      Reading.ofJson?_toJson, hvalue]
    rfl
  · obtain ⟨r', hread, hsame⟩ := Resolved.ofJson?_of_finite (r := ⟨[⟨2, "heat",
      ⟨0x4030000000000000⟩, "K"⟩], .leapingNoon, .fallback, []⟩) (by decide)
    refine ⟨_, r', hshort, ?_, ?_⟩
    · rw [parse_render (Resolved.legal_toJson _), Option.bind_some, hread]
    · rw [hsame.timestamp]
      decide

end Ingest

end Telemetry
