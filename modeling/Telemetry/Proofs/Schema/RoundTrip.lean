import Mathlib
import Telemetry.Proofs.Json.Shape
import Telemetry.Proofs.Schema.Lookup
import Telemetry.Proofs.Time.RoundTrip

/-! A schema that was read from a document is read again from the document it is written to. -/

namespace Telemetry.Schema

open Json Time

namespace Entry

variable (e : Entry)

lemma legal_toJson : e.toJson.Legal := by
  simp [toJson]

lemma ofJson?_toJson : ofJson? e.toJson = some e := by
  have hfields : e.toJson.fields? ["id", "name", "type", "unit"] =
      some [some (.nat e.id.toNat), some (.text e.name), some (.text e.declared),
        some (.text e.unit)] := by
    rw [toJson, Value.fields?_record]
    simp [member?]
  rw [ofJson?, hfields]
  simp only [optionalText?, Value.text, Value.text?, Value.uint32?_toNat]
  rfl

end Entry

lemma entriesOfJson?_record (t : Table String Entry) :
    entriesOfJson? (.record (t.entries.map fun (k, e) => (k, e.toJson))) = some t := by
  rw [Value.record, entriesOfJson?]
  simp only [namedMembers_map, Option.bind_eq_bind, Option.bind_some]
  rw [mapM_map (h := id), List.map_id]
  · exact congrArg some t.ofList_entries
  · intro x _
    simp only [Entry.ofJson?_toJson, Option.map_some, Prod.mk.eta, id]

lemma createdAtOfJson?_map {t : Option Instant} (h : ∀ u ∈ t, u.Regular) :
    createdAtOfJson? (t.map Instant.toJson) = some t := by
  cases t with
  | none => rfl
  | some t =>
    have hnull : t.toJson = .null → False := by simp [Instant.toJson, Value.text]
    rw [Option.map_some, createdAtOfJson?.eq_3 _ hnull, t.ofJson?_toJson, Option.map_some,
      Instant.readBack_of_regular (h t rfl)]

lemma regular_of_createdAtOfJson? {j : Option Value} {t : Instant}
    (h : createdAtOfJson? j = some (some t)) : t.Regular := by
  unfold createdAtOfJson? at h
  split at h
  next => cases h
  next => cases h
  next =>
    obtain ⟨u, hu, htu⟩ := Option.map_eq_some_iff.mp h
    obtain rfl := Option.some.inj htu
    obtain ⟨text, -, htext⟩ := Option.bind_eq_some_iff.mp hu
    exact Instant.regular_of_ofText? htext

section Document

variable (s : Schema)

lemma legal_toJson : s.toJson.Legal := by
  have hentries : ∀ m ∈ s.measurements.entries.map fun (k, e) => (k, e.toJson), m.2.Legal := by
    intro m hm
    obtain ⟨x, -, rfl⟩ := List.mem_map.mp hm
    exact x.2.legal_toJson
  have hmeasurements := (Value.legal_record_iff _).mpr hentries
  rw [toJson, Value.legal_record_iff]
  cases s.createdAt <;> simp [hmeasurements, Instant.toJson]

variable {s}

lemma ofJson?_toJson (h : ∀ t ∈ s.createdAt, t.Regular) : ofJson? s.toJson = some s := by
  have hfields : s.toJson.fields? ["app_name", "version", "measurements", "created_at"] =
      some [some (.text s.identity.app), some (.text s.identity.version),
        some (.record (s.measurements.entries.map fun (k, e) => (k, e.toJson))),
        s.createdAt.map Instant.toJson] := by
    rw [toJson, Value.fields?_record]
    cases s.createdAt <;> simp [member?]
  rw [ofJson?, hfields]
  simp only [Value.text, Value.text?, entriesOfJson?_record, createdAtOfJson?_map h]
  rfl

lemma regular_createdAt {j : Value} (h : ofJson? j = some s) : ∀ t ∈ s.createdAt, t.Regular := by
  unfold ofJson? at h
  split at h
  next =>
    simp only [Option.bind_eq_bind, Option.bind_eq_some_iff] at h
    obtain ⟨_, -, _, -, _, -, createdAt, hcreatedAt, hs⟩ := h
    obtain rfl := Option.some.inj hs
    rintro t rfl
    exact regular_of_createdAtOfJson? hcreatedAt
  next => cases h

end Document

section Names

structure Fills (k : String) (e filled : Entry) : Prop where
  id : filled.id = e.id
  declared : filled.declared = e.declared
  unit : filled.unit = e.unit
  named : e.name ≠ "" → filled.name = e.name
  unnamed : e.name = "" → filled.name = k

def Entry.fill (k : String) (e : Entry) : Entry :=
  if e.name = "" then ⟨e.id, k, e.declared, e.unit⟩ else e

lemma Entry.fills_fill (k : String) (e : Entry) : Fills k e (e.fill k) := by
  unfold fill
  split
  next hname => exact ⟨rfl, rfl, rfl, fun h => absurd hname h, fun _ => rfl⟩
  next hname => exact ⟨rfl, rfl, rfl, fun _ => rfl, fun h => absurd h hname⟩

lemma Entry.named_or_keyless_fill (k : String) (e : Entry) : (e.fill k).name ≠ "" ∨ k = "" := by
  have h := e.fills_fill k
  by_cases hname : e.name = ""
  · rw [h.unnamed hname]
    exact (em (k = "")).symm
  · rw [h.named hname]
    exact .inl hname

lemma Entry.fill_eq_self {k : String} {e : Entry} (h : e.name ≠ "" ∨ k = "") : e.fill k = e := by
  unfold fill
  split
  next hname =>
    obtain rfl := h.resolve_left fun hne => hne hname
    rw [← hname]
  next => rfl

variable (s : Schema)

lemma entries_fillNames : s.fillNames.measurements.entries =
    s.measurements.entries.map fun x => (x.1, x.2.fill x.1) :=
  rfl

lemma named_or_keyless_fillNames :
    ∀ y ∈ s.fillNames.measurements.entries, y.2.name ≠ "" ∨ y.1 = "" := by
  rw [entries_fillNames, List.forall_mem_map]
  exact fun x _ => x.2.named_or_keyless_fill x.1

lemma fillNames_eq_self (h : ∀ x ∈ s.measurements.entries, x.2.name ≠ "" ∨ x.1 = "") :
    s.fillNames = s := by
  have hentries : s.fillNames.measurements = s.measurements := by
    apply Table.eq_of_entries
    rw [entries_fillNames]
    refine (List.map_congr_left fun x hx => ?_).trans (List.map_id _)
    rw [Entry.fill_eq_self (h x hx)]
    rfl
  exact congrArg (Schema.mk s.identity · s.createdAt) hentries

end Names

lemma ofText_eq_ok_iff (text : String) (s : Schema) : ofText text = .ok s ↔
    ∃ d, (parse text).bind ofJson? = some d ∧ d.fillNames = s ∧ s.validate = .ok () := by
  unfold ofText
  cases (parse text).bind ofJson? with
  | none => simp
  | some d =>
    cases hdefect : d.fillNames.defect? with
    | none =>
      simp only [hdefect, Except.ok.injEq, Option.some.injEq, exists_eq_left', iff_self_and]
      rintro rfl
      exact (validate_eq_ok_iff_defect? _).mpr hdefect
    | some e =>
      simp only [hdefect, reduceCtorEq, Option.some.injEq, exists_eq_left', false_iff, not_and]
      rintro rfl hvalid
      rw [(validate_eq_ok_iff_defect? _).mp hvalid] at hdefect
      cases hdefect

theorem ofText_render {text : String} {s : Schema} (h : ofText text = .ok s) :
    ofText s.toJson.render = .ok s ∧
    (ofText s.toJson.render).map (fun t => t.toJson.render) = .ok s.toJson.render ∧
    (∃ d, (parse text).bind ofJson? = some d ∧ s.identity = d.identity ∧
      s.createdAt = d.createdAt ∧
      List.Forall₂ (fun x y => y.1 = x.1 ∧ Fills x.1 x.2 y.2) d.measurements.entries
        s.measurements.entries) ∧
    (∀ y ∈ s.measurements.entries, y.2.name ≠ "" ∨ y.1 = "") ∧
    (s.entries.map (·.id)).Nodup := by
  obtain ⟨d, hd, rfl, hvalid⟩ := (ofText_eq_ok_iff text s).mp h
  have hnames := d.named_or_keyless_fillNames
  have hread : ofText d.fillNames.toJson.render = .ok d.fillNames := by
    apply (ofText_eq_ok_iff _ _).mpr
    refine ⟨d.fillNames, ?_, fillNames_eq_self _ hnames, hvalid⟩
    obtain ⟨j, -, hj⟩ := Option.bind_eq_some_iff.mp hd
    have hregular : ∀ t ∈ d.createdAt, t.Regular := regular_createdAt hj
    rw [parse_render d.fillNames.legal_toJson, Option.bind_some]
    exact ofJson?_toJson hregular
  have hentries : List.Forall₂ (fun x y => y.1 = x.1 ∧ Fills x.1 x.2 y.2) d.measurements.entries
      d.fillNames.measurements.entries := by
    rw [entries_fillNames, List.forall₂_map_right_iff, List.forall₂_same]
    exact fun x _ => ⟨rfl, x.2.fills_fill x.1⟩
  refine ⟨hread, ?_, ⟨d, hd, rfl, rfl, hentries⟩, hnames, ?_⟩
  · rw [hread]
    rfl
  · exact ((validate_eq_ok_iff _).mp hvalid).2.2.2

def pumpText : String :=
  "[\"pump\", \"1\", \x7b\"flow\": \x7b\"id\": 7\x7d, \"heat\": [3, \"warmth\"], " ++
    "\"flow\": \x7b\"unit\": \"l\\u002fs\", \"id\": 2\x7d\x7d, \"2016-12-31 23:59:60+00:30\"]"

def pumpDocument : Schema :=
  ⟨⟨"pump", "1"⟩, Table.ofList [("flow", ⟨2, "flow", "", "l/s"⟩), ("heat", ⟨3, "warmth", "", ""⟩)],
    some ⟨1483226999000000000, true, by decide, by decide⟩⟩

theorem ofText_render_pump : ofText pumpText = .ok pumpDocument ∧
    ofText pumpDocument.toJson.render = .ok pumpDocument ∧
    (pumpDocument.entries.map (·.id)).Nodup := by
  have htext : ofText pumpText = .ok pumpDocument := by cbv
  obtain ⟨hread, -, -, -, hids⟩ := ofText_render htext
  exact ⟨htext, hread, hids⟩

end Telemetry.Schema
