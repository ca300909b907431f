import Mathlib.Data.List.Induction
import Telemetry.Proofs.Schema.Validity

namespace Telemetry

namespace Table

variable {κ ν : Type}

lemma eq_of_entries {t u : Table κ ν} (h : t.entries = u.entries) : t = u := by
  obtain ⟨es, hes⟩ := t
  cases h
  rfl

variable [DecidableEq κ] {k : κ} {v : ν}

lemma put_of_not_mem {es : List (κ × ν)} (h : k ∉ es.map Prod.fst) :
    put k v es = es ++ [(k, v)] := by
  induction es with
  | nil => rfl
  | cons e es ih =>
    obtain ⟨hne, hes⟩ := not_or.mp (mt List.mem_cons.mpr h)
    rw [put, if_neg fun he => hne he.symm, ih hes, List.cons_append]

lemma entries_ofList {l : List (κ × ν)} (h : (l.map Prod.fst).Nodup) : (ofList l).entries = l := by
  induction l using List.reverseRecOn with
  | nil => rfl
  | append_singleton l e ih =>
    rw [List.map_append, List.map_singleton] at h
    obtain ⟨hl, -, hnew⟩ := List.nodup_append.mp h
    have hnot : e.1 ∉ l.map Prod.fst := fun he => hnew _ he _ List.mem_cons_self rfl
    have hlast : (ofList (l ++ [e])).entries = put e.1 e.2 (ofList l).entries := by
      rw [ofList, List.foldl_append]
      rfl
    rw [hlast, ih hl]
    exact put_of_not_mem hnot

lemma ofList_entries (t : Table κ ν) : ofList t.entries = t :=
  eq_of_entries (entries_ofList t.nodup)

lemma find?_eq_some_iff {es : List (κ × ν)} (h : (es.map Prod.fst).Nodup) :
    find? k es = some v ↔ (k, v) ∈ es := by
  induction es with
  | nil => simp [find?]
  | cons e es ih =>
    rw [List.map_cons, List.nodup_cons] at h
    by_cases he : e.1 = k
    · have hes : (k, v) ∉ es := fun hm => h.1 (he ▸ List.mem_map_of_mem (f := Prod.fst) hm)
      have hhead : find? k (e :: es) = some e.2 := by simp [find?, he]
      rw [hhead, List.mem_cons, or_iff_left hes, Option.some.injEq, Prod.ext_iff]
      exact ⟨fun hv => ⟨he.symm, hv.symm⟩, fun hv => hv.2.symm⟩
    · have htail : find? k (e :: es) = find? k es := by simp [find?, he]
      have hne : (k, v) ≠ e := fun heq => he (heq ▸ rfl)
      rw [htail, ih h.2, List.mem_cons, or_iff_right hne]

lemma get?_eq_some_iff (t : Table κ ν) : t.get? k = some v ↔ (k, v) ∈ t.entries :=
  find?_eq_some_iff t.nodup

end Table

namespace Schema

variable {s : Schema}

lemma entries_lookup (h : (s.entries.map (·.id)).Nodup) :
    s.lookup.entries = s.entries.map fun e => (e.id, e) := by
  apply Table.entries_ofList
  rw [List.map_map]
  exact h

lemma get?_lookup_eq_some_iff (h : (s.entries.map (·.id)).Nodup) (id : UInt32) (e : Entry) :
    s.lookup.get? id = some e ↔ e ∈ s.entries ∧ e.id = id := by
  rw [Table.get?_eq_some_iff, entries_lookup h, List.mem_map]
  constructor
  · rintro ⟨e', he', heq⟩
    obtain ⟨rfl, rfl⟩ := Prod.mk.inj heq
    exact ⟨he', rfl⟩
  · rintro ⟨he, rfl⟩
    exact ⟨e, he, rfl⟩

end Schema

end Telemetry
