import Mathlib.Data.List.Forall2
import Telemetry.Proofs.Json.Pretty
import Telemetry.Proofs.Json.Shape
import Telemetry.Proofs.Number.ReadBack
import Telemetry.Proofs.Time.RoundTrip
import Telemetry.Resolution.Document

namespace Telemetry

namespace Json.Value

open Number

variable {x : Binary64}

lemma legal_float64 (x : Binary64) : (float64 x).Legal := by
  by_cases hx : x.Finite
  · rw [Binary64.float64_of_finite hx]
    exact Binary64.legal_numeral hx
  · rw [Binary64.float64_of_not_finite hx]
    trivial

lemma float64?_of_finite (hx : x.Finite) : ∃ y, (float64 x).float64? = some y ∧ x.ReadBack y := by
  rw [Binary64.float64_of_finite hx]
  exact Binary64.binary64?_numeral hx

lemma float64?_of_not_finite (hx : ¬ x.Finite) : (float64 x).float64? = none := by
  rw [Binary64.float64_of_not_finite hx]
  rfl

end Json.Value

namespace Resolution

open Json Time

namespace Reading

variable (r : Reading)

structure ReadBack (r r' : Reading) : Prop where
  id : r'.id = r.id
  name : r'.name = r.name
  unit : r'.unit = r.unit
  value : r.value.ReadBack r'.value

lemma legal_toJson : r.toJson.Legal := by
  simp [toJson, Value.legal_float64]

lemma ofJson?_toJson : ofJson? r.toJson =
    (Value.float64 r.value).float64?.map fun y => ⟨r.id, r.name, y, r.unit⟩ := by
  have hfields : r.toJson.fields? ["id", "name", "value", "unit"] =
      some [some (.nat r.id.toNat), some (.text r.name), some (.float64 r.value),
        some (.text r.unit)] := by
    rw [toJson, Value.fields?_record]
    simp [member?]
  rw [ofJson?, hfields]
  simp only [Value.text, Value.text?, Value.uint32?_toNat]
  cases (Value.float64 r.value).float64? <;> rfl

variable {r}

lemma ofJson?_of_finite (hr : r.value.Finite) :
    ∃ r', ofJson? r.toJson = some r' ∧ r.ReadBack r' := by
  obtain ⟨y, hy, hread⟩ := Value.float64?_of_finite hr
  refine ⟨⟨r.id, r.name, y, r.unit⟩, ?_, rfl, rfl, rfl, hread⟩
  rw [ofJson?_toJson, hy, Option.map_some]

lemma ofJson?_of_not_finite (hr : ¬ r.value.Finite) : ofJson? r.toJson = none := by
  rw [ofJson?_toJson, Value.float64?_of_not_finite hr, Option.map_none]

lemma list?_of_finite {rs : List Reading} (hrs : ∀ r ∈ rs, r.value.Finite) :
    ∃ rs', (Value.array (rs.map toJson)).list? ofJson? = some rs' ∧
      List.Forall₂ ReadBack rs rs' := by
  induction rs with
  | nil => exact ⟨[], rfl, .nil⟩
  | cons r rs ih =>
    obtain ⟨hr, hrest⟩ := List.forall_mem_cons.mp hrs
    obtain ⟨r', hr', hhead⟩ := ofJson?_of_finite hr
    obtain ⟨rs', hrs', htail⟩ := ih hrest
    refine ⟨r' :: rs', ?_, .cons hhead htail⟩
    simp only [Value.list?] at hrs' ⊢
    rw [List.map_cons, List.mapM_cons, hr', hrs']
    rfl

lemma list?_of_not_finite {rs : List Reading} (hrs : ¬ ∀ r ∈ rs, r.value.Finite) :
    (Value.array (rs.map toJson)).list? ofJson? = none := by
  induction rs with
  | nil => exact absurd (List.forall_mem_nil _) hrs
  | cons r rs ih =>
    simp only [Value.list?] at ih ⊢
    rw [List.map_cons, List.mapM_cons]
    by_cases hr : r.value.Finite
    · rw [ih fun hrest => hrs (List.forall_mem_cons.mpr ⟨hr, hrest⟩)]
      cases ofJson? r.toJson <;> rfl
    · rw [ofJson?_of_not_finite hr]
      rfl

end Reading

lemma SkipReason.word?_toJson (r : SkipReason) : r.toJson.word? ofName? = some r := by
  cases r <;> rfl

namespace Skipped

variable (s : Skipped)

lemma legal_toJson : s.toJson.Legal := by
  simp [toJson, SkipReason.toJson]

lemma ofJson?_toJson : ofJson? s.toJson = some s := by
  have hfields : s.toJson.fields? ["id", "reason"] =
      some [some (.nat s.id.toNat), some s.reason.toJson] := by
    rw [toJson, Value.fields?_record]
    simp [member?]
  rw [ofJson?, hfields]
  simp only [Value.uint32?_toNat, SkipReason.word?_toJson]
  rfl

end Skipped

lemma TimestampSource.ofJson?_toJson (s : TimestampSource) : ofJson? s.toJson = some s := by
  cases s <;> rfl

namespace Resolved

variable (r : Resolved)

structure ReadBack (r r' : Resolved) : Prop where
  readings : List.Forall₂ Reading.ReadBack r.readings r'.readings
  timestamp : r'.timestamp = r.timestamp.readBack
  source : r'.source = r.source
  skipped : r'.skipped = r.skipped

lemma legal_toJson : r.toJson.Legal := by
  have hreadings : ∀ j ∈ r.readings.map Reading.toJson, j.Legal := by
    simp [Reading.legal_toJson]
  have hskipped : ∀ j ∈ r.skipped.map Skipped.toJson, j.Legal := by
    simp [Skipped.legal_toJson]
  simp only [toJson, Value.legal_record_iff, List.forall_mem_cons, Value.legal_array_iff]
  exact ⟨hreadings, trivial, trivial, hskipped, List.forall_mem_nil _⟩

lemma ofJson?_toJson : ofJson? r.toJson =
    ((Value.array (r.readings.map Reading.toJson)).list? Reading.ofJson?).map
      fun readings => ⟨readings, r.timestamp.readBack, r.source, r.skipped⟩ := by
  have hfields : r.toJson.fields? ["readings", "timestamp", "timestamp_source", "skipped"] =
      some [some (.array (r.readings.map Reading.toJson)), some r.timestamp.toJson,
        some r.source.toJson, some (.array (r.skipped.map Skipped.toJson))] := by
    rw [toJson, Value.fields?_record]
    simp [member?]
  have hskipped : (Value.array (r.skipped.map Skipped.toJson)).list? Skipped.ofJson? =
      some r.skipped := by
    have hitems := mapM_map (h := id) fun s (_ : s ∈ r.skipped) => s.ofJson?_toJson
    rwa [List.map_id] at hitems
  rw [ofJson?, hfields]
  simp only [Instant.ofJson?_toJson, TimestampSource.ofJson?_toJson, hskipped]
  cases (Value.array (r.readings.map Reading.toJson)).list? Reading.ofJson? <;> rfl

variable {r} in
lemma ofJson?_of_finite (hr : ∀ x ∈ r.readings, x.value.Finite) :
    ∃ r', ofJson? r.toJson = some r' ∧ r.ReadBack r' := by
  obtain ⟨readings, hreadings, hsame⟩ := Reading.list?_of_finite hr
  refine ⟨⟨readings, r.timestamp.readBack, r.source, r.skipped⟩, ?_, hsame, rfl, rfl, rfl⟩
  rw [ofJson?_toJson, hreadings, Option.map_some]

variable {r} in
lemma ofJson?_of_not_finite (hr : ¬ ∀ x ∈ r.readings, x.value.Finite) :
    ofJson? r.toJson = none := by
  rw [ofJson?_toJson, Reading.list?_of_not_finite hr, Option.map_none]

end Resolved

end Resolution

end Telemetry
