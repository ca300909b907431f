import Telemetry.Proofs.Schema.Lookup

namespace Telemetry.Schema

inductive FirstRepetition (es : List Entry) : Entry → Entry → Prop
  | intro {before between after : List Entry} {first second : Entry} :
      es = before ++ first :: between ++ second :: after →
      ((before ++ first :: between).map (·.id)).Nodup → first.id = second.id →
      FirstRepetition es first second

def Seen (before : List Entry) (seen : Table UInt32 String) : Prop :=
  ∀ id name, seen.get? id = some name ↔ ∃ e ∈ before, e.id = id ∧ e.name = name

variable {before es : List Entry} {seen : Table UInt32 String} {e first second : Entry}

lemma seen_empty : Seen [] ∅ := by
  simp [Seen]

lemma Seen.eq_none (h : Seen before seen) {id : UInt32} (hnew : id ∉ before.map (·.id)) :
    seen.get? id = none := by
  rw [Option.eq_none_iff_forall_ne_some]
  intro name hname
  obtain ⟨e, he, rfl, -⟩ := (h id name).mp hname
  exact hnew (List.mem_map_of_mem he)

lemma Seen.insert (h : Seen before seen) (hnew : seen.get? e.id = none) :
    Seen (before ++ [e]) (seen.insert e.id e.name) := by
  intro id name
  simp only [List.mem_append, List.mem_singleton, or_and_right, exists_or, exists_eq_left]
  rw [Table.get?_insert, ← h id name]
  split
  next hid =>
    subst hid
    simp [hnew]
  next hid => simp [hid]

lemma Seen.duplicate?_append (h : Seen before seen)
    (hdistinct : ((before ++ es).map (·.id)).Nodup) :
    ∃ seen', Seen (before ++ es) seen' ∧
      ∀ rest, duplicate? seen (es ++ rest) = duplicate? seen' rest := by
  induction es generalizing before seen with
  | nil => exact ⟨seen, by rwa [List.append_nil], fun _ => rfl⟩
  | cons e es ih =>
    have hnew : e.id ∉ before.map (·.id) := by
      rw [List.map_append, List.nodup_append] at hdistinct
      exact fun hmem => hdistinct.2.2 _ hmem _ List.mem_cons_self rfl
    rw [List.append_cons] at hdistinct
    obtain ⟨seen', hseen', hrun⟩ := ih (h.insert (h.eq_none hnew)) hdistinct
    refine ⟨seen', by rwa [List.append_assoc] at hseen', fun rest => ?_⟩
    rw [List.cons_append, duplicate?, h.eq_none hnew]
    exact hrun rest

lemma duplicate?_of_firstRepetition (h : FirstRepetition es first second) :
    duplicate? ∅ es = some (.duplicateId second.id first.name second.name) := by
  obtain @⟨before, between, after, _, _, rfl, hdistinct, hid⟩ := h
  rw [← List.nil_append (before ++ first :: between)] at hdistinct
  obtain ⟨seen, hseen, hrun⟩ := seen_empty.duplicate?_append hdistinct
  have hfirst : seen.get? second.id = some first.name :=
    (hseen _ _).mpr ⟨first, by simp, hid, rfl⟩
  rw [hrun, duplicate?, hfirst]

lemma exists_firstRepetition (h : ¬ (es.map (·.id)).Nodup) :
    ∃ first second, FirstRepetition es first second := by
  induction es using List.reverseRecOn with
  | nil => exact absurd List.nodup_nil h
  | append_singleton es e ih =>
    by_cases hdistinct : (es.map (·.id)).Nodup
    · have hmem : e.id ∈ es.map (·.id) := by
        by_contra hnew
        refine h ?_
        rw [List.map_append, List.map_singleton, List.nodup_append]
        refine ⟨hdistinct, by simp, ?_⟩
        rintro id hid _ hlast rfl
        exact hnew (List.mem_singleton.mp hlast ▸ hid)
      obtain ⟨first, hfirst, hid⟩ := List.mem_map.mp hmem
      obtain ⟨before, between, rfl⟩ := List.append_of_mem hfirst
      exact ⟨first, e, .intro rfl hdistinct hid⟩
    · obtain ⟨first, second, ⟨rfl, hstart, hid⟩⟩ := ih hdistinct
      exact ⟨first, second, .intro (List.append_assoc _ _ _) hstart hid⟩

lemma validate_of_firstRepetition {s : Schema} (happ : Text.isBlankText s.identity.app = false)
    (hversion : Text.isBlankText s.identity.version = false)
    (h : FirstRepetition s.entries first second) :
    s.validate = .error (.duplicateId second.id first.name second.name) := by
  have hmeasured : s.measurements.isEmpty = false := by
    by_contra hempty
    have hnil : s.entries = [] := by simpa [Table.isEmpty, entries, Table.values] using hempty
    obtain ⟨hentries, -, -⟩ := h
    rw [hnil] at hentries
    simp at hentries
  rw [validate, defect?, if_neg (by simp [happ, hversion]), if_neg (by simp [hmeasured]),
    duplicate?_of_firstRepetition h]

theorem validate_and_lookup (s : Schema) :
    (s.validate = .ok () ↔
      Text.isBlankText s.identity.app = false ∧ Text.isBlankText s.identity.version = false ∧
        s.entries ≠ [] ∧ (s.entries.map (·.id)).Nodup) ∧
    (Text.isBlankText s.identity.app = false → Text.isBlankText s.identity.version = false →
      ¬ (s.entries.map (·.id)).Nodup →
      (∃ first second, FirstRepetition s.entries first second) ∧
      ∀ first second, FirstRepetition s.entries first second →
        s.validate = .error (.duplicateId second.id first.name second.name)) ∧
    (s.validate = .ok () → s.lookup.size = s.measurements.size ∧
      ∀ id e, s.lookup.get? id = some e ↔ e ∈ s.entries ∧ e.id = id) := by
  refine ⟨validate_eq_ok_iff s, fun happ hversion hrepeated => ?_, fun hvalid => ?_⟩
  · exact ⟨exists_firstRepetition hrepeated,
      fun first second => validate_of_firstRepetition happ hversion⟩
  · have hdistinct := ((validate_eq_ok_iff s).mp hvalid).2.2.2
    refine ⟨?_, get?_lookup_eq_some_iff hdistinct⟩
    rw [Table.size, entries_lookup hdistinct, List.length_map]
    exact List.length_map _

def tankSchema (heat : UInt32) : Schema :=
  (((Schema.new ⟨"tank", "1"⟩).withEntry ⟨4, "level", "float32", "m"⟩).withEntry
    ⟨5, "pressure", "float32", "bar"⟩).withEntry ⟨heat, "heat", "float32", "K"⟩

theorem validate_and_lookup_tank :
    (tankSchema 4).validate = .error (.duplicateId 4 "level" "heat") ∧
    (tankSchema 6).validate = .ok () ∧ (tankSchema 6).lookup.size = 3 ∧
    (tankSchema 6).lookup.get? 6 = some ⟨6, "heat", "float32", "K"⟩ := by
  obtain ⟨-, hrepeated, -⟩ := validate_and_lookup (tankSchema 4)
  obtain ⟨hvalid, -, hlookup⟩ := validate_and_lookup (tankSchema 6)
  have happ : Text.isBlankText "tank" = false := by cbv
  have hversion : Text.isBlankText "1" = false := by cbv
  have hfirst : FirstRepetition (tankSchema 4).entries ⟨4, "level", "float32", "m"⟩
      ⟨4, "heat", "float32", "K"⟩ :=
    @FirstRepetition.intro _ [] [⟨5, "pressure", "float32", "bar"⟩] [] _ _ rfl (by decide) rfl
  have hmended := hvalid.mpr ⟨happ, hversion, List.cons_ne_nil _ _, by decide⟩
  obtain ⟨hsize, hget⟩ := hlookup hmended
  exact ⟨(hrepeated happ hversion (by decide)).2 _ _ hfirst, hmended, hsize,
    (hget _ _).mpr ⟨List.getLast_mem (List.cons_ne_nil _ _), rfl⟩⟩

end Telemetry.Schema
