import Mathlib.Algebra.Ring.Nat
import Telemetry.Command.Run
import Telemetry.Proofs.Config.Choice
import Telemetry.Proofs.Toml.Range

/-! No configuration lets bodies grow beyond the sizes that a machine can address. -/

namespace Telemetry

namespace Toml.Value

variable {v : Value}

lemma bounded_of_fields? {names : List String} {fields : List (Option Value)}
    (h : v.fields? names = some fields) (hv : v.Bounded) :
    ∀ field ∈ fields, ∀ w ∈ field, w.Bounded := by
  intro field hfield w hw
  cases hv with
  | string | integer | float | boolean => cases h
  | datetime =>
    obtain rfl := Option.some.inj h
    obtain ⟨name, -, rfl⟩ := List.mem_map.mp hfield
    cases hw
  | array hvs =>
    obtain rfl := Option.some.inj h
    obtain ⟨i, -, rfl⟩ := List.mem_map.mp hfield
    exact hvs w (List.mem_of_getElem? hw)
  | table hms =>
    obtain rfl := Option.some.inj h
    obtain ⟨name, -, rfl⟩ := List.mem_map.mp hfield
    exact bounded_of_find? hms hw
  | tables hmss =>
    obtain rfl := Option.some.inj h
    obtain ⟨i, -, rfl⟩ := List.mem_map.mp hfield
    obtain ⟨ms, hms, rfl⟩ := Option.map_eq_some_iff.mp hw
    exact .table (hmss ms (List.mem_of_getElem? hms))

lemma lt_of_nat? {n : ℕ} (h : v.nat? = some n) (hv : v.Bounded) : n < 2 ^ 63 := by
  cases hv with
  | @integer i hi =>
    simp only [inRange, Bool.and_eq_true, decide_eq_true_eq] at hi
    rw [nat?] at h
    split at h
    next =>
      obtain rfl := Option.some.inj h
      omega
    next => cases h
  | string | float | boolean | datetime | array | table | tables => cases h

lemma setting?_of_forall {α : Type} {p : α → Prop} {default a : α} {read : Value → Option α}
    {field : Option Value} (h : setting? default read field = some a) (hdefault : p default)
    (hread : ∀ v ∈ field, ∀ a, read v = some a → p a) : p a := by
  cases field with
  | none => exact Option.some.inj h ▸ hdefault
  | some v => exact hread v rfl a h

end Toml.Value

namespace Config

open Toml Value

lemma maxBodyBytes_limitsOfToml? {v : Value} {limits : Ingest.Limits} (hv : v.Bounded)
    (h : limitsOfToml? v = some limits) : limits.maxBodyBytes < 2 ^ 63 := by
  rw [limitsOfToml?] at h
  split at h
  next bytes topic hfields =>
    obtain ⟨n, hn, h⟩ := Option.bind_eq_some_iff.mp h
    obtain ⟨t, -, h⟩ := Option.bind_eq_some_iff.mp h
    obtain rfl := Option.some.inj h
    have hbounded := bounded_of_fields? hfields hv bytes List.mem_cons_self
    exact setting?_of_forall (p := (· < 2 ^ 63)) hn (by decide)
      fun w hw m hm => lt_of_nat? hm (hbounded w hw)
  next => cases h

lemma maxBodyBytes_ofToml? {v : Value} {config : Config} (hv : v.Bounded)
    (h : ofToml? v = some config) : config.ingest.maxBodyBytes < 2 ^ 63 := by
  rw [ofToml?] at h
  split at h
  next logging ingest schemaCache metrics hfields =>
    obtain ⟨_, -, h⟩ := Option.bind_eq_some_iff.mp h
    obtain ⟨limits, hlimits, h⟩ := Option.bind_eq_some_iff.mp h
    obtain ⟨_, -, h⟩ := Option.bind_eq_some_iff.mp h
    obtain ⟨_, -, h⟩ := Option.bind_eq_some_iff.mp h
    obtain rfl := Option.some.inj h
    have hbounded := bounded_of_fields? hfields hv ingest (by simp)
    exact setting?_of_forall (p := (·.maxBodyBytes < 2 ^ 63)) hlimits (by decide)
      fun w hw m hm => maxBodyBytes_limitsOfToml? (hbounded w hw) hm
  next => cases h

variable {files : Files} {config : Config}

lemma maxBodyBytes_ofText {text : String} (h : ofText files text = .ok config) :
    config.ingest.maxBodyBytes < 2 ^ 63 := by
  rw [ofText] at h
  split at h
  next => cases h
  next c hc =>
    split at h
    next => cases h
    next =>
      obtain rfl := Except.ok.inj h
      obtain ⟨ms, hms, hread⟩ := Option.bind_eq_some_iff.mp hc
      exact maxBodyBytes_ofToml? (.table (bounded_of_parse hms)) hread

lemma maxBodyBytes_ofFile {path : String} (h : ofFile files path = .ok config) :
    config.ingest.maxBodyBytes < 2 ^ 63 := by
  obtain ⟨text, -, htext⟩ := ofFile_eq_ok_iff.mp h
  exact maxBodyBytes_ofText htext

lemma maxBodyBytes_load? {environment : Option (List UInt8)} {candidates : List String}
    {loaded : Loaded} (h : load? files environment candidates = .ok (some loaded)) :
    loaded.config.ingest.maxBodyBytes < 2 ^ 63 :=
  maxBodyBytes_ofFile (load?_eq_ok_some_iff.mp h).2

end Config

lemma Command.Invocation.maxBodyBytes_settings {i : Invocation} {files : Files}
    {environment : Option (List UInt8)} {config : Config}
    (h : i.settings files environment = .ok config) : config.ingest.maxBodyBytes < 2 ^ 63 := by
  rw [settings] at h
  split at h
  next => exact Config.maxBodyBytes_ofFile h
  next =>
    cases hload : Config.load? files environment candidates with
    | error e =>
      rw [hload] at h
      cases h
    | ok loaded? =>
      rw [hload] at h
      obtain rfl := Except.ok.inj h
      cases loaded? with
      | none => decide
      | some loaded => exact Config.maxBodyBytes_load? hload

end Telemetry
