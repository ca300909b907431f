import Mathlib.Tactic.Lemma
import Telemetry.Schema.Store

namespace Telemetry

namespace Table

variable {κ ν : Type} {p : κ → ν → Prop} {t : Table κ ν} {k : κ} {v : ν}

def Forall (p : κ → ν → Prop) (t : Table κ ν) : Prop :=
  ∀ e ∈ t.entries, p e.1 e.2

lemma forall_empty : (∅ : Table κ ν).Forall p :=
  List.forall_mem_nil _

variable [DecidableEq κ]

lemma mem_put {es : List (κ × ν)} {e : κ × ν} (h : e ∈ put k v es) : e = (k, v) ∨ e ∈ es := by
  induction es with
  | nil => exact Or.inl (List.mem_singleton.mp h)
  | cons first es ih =>
    unfold put at h
    split at h
    · exact (List.mem_cons.mp h).imp_right (List.mem_cons_of_mem _)
    · rcases List.mem_cons.mp h with rfl | h
      · exact Or.inr List.mem_cons_self
      · exact (ih h).imp_right (List.mem_cons_of_mem _)

lemma Forall.insert (h : t.Forall p) (hv : p k v) : (t.insert k v).Forall p := by
  intro e he
  rcases mem_put he with rfl | he
  · exact hv
  · exact h e he

lemma Forall.erase (h : t.Forall p) (k : κ) : (t.erase k).Forall p :=
  fun e he => h e (List.mem_filter.mp he).1

lemma get?_insert_eq_none_iff (t : Table κ ν) (k k' : κ) (v : ν) :
    (t.insert k v).get? k' = none ↔ k ≠ k' ∧ t.get? k' = none := by
  rw [get?_insert]
  split <;> simp_all

lemma Forall.of_get? (h : t.Forall p) (hk : t.get? k = some v) : p k v := by
  simp only [get?, find?, Option.map_eq_some_iff] at hk
  obtain ⟨e, he, rfl⟩ := hk
  obtain rfl : e.1 = k := by simpa using List.find?_some he
  exact h e (List.mem_of_find?_eq_some he)

end Table

namespace Schema

lemma duplicate?_eq_none_iff (seen : Table UInt32 String) (es : List Entry) :
    duplicate? seen es = none ↔
      (es.map (·.id)).Nodup ∧ ∀ e ∈ es, seen.get? e.id = none := by
  induction es generalizing seen with
  | nil => simp [duplicate?]
  | cons e es ih =>
    rw [List.map_cons, List.nodup_cons, List.forall_mem_cons]
    cases hseen : seen.get? e.id with
    | some first => simp [duplicate?, hseen]
    | none =>
      simp only [duplicate?, hseen, ih, Table.get?_insert_eq_none_iff, List.mem_map, not_exists,
        not_and, true_and]
      constructor
      · rintro ⟨hd, hs⟩
        exact ⟨⟨fun e' he' heq => (hs e' he').1 heq.symm, hd⟩, fun e' he' => (hs e' he').2⟩
      · rintro ⟨⟨hn, hd⟩, hs⟩
        exact ⟨hd, fun e' he' => ⟨fun heq => hn e' he' heq.symm, hs e' he'⟩⟩

lemma validate_eq_ok_iff_defect? (s : Schema) : s.validate = .ok () ↔ s.defect? = none := by
  unfold validate
  cases s.defect? <;> simp

lemma validate_eq_ok_iff (s : Schema) : s.validate = .ok () ↔
    Text.isBlankText s.identity.app = false ∧ Text.isBlankText s.identity.version = false ∧
      s.entries ≠ [] ∧ (s.entries.map (·.id)).Nodup := by
  have hempty : s.measurements.isEmpty = true ↔ s.entries = [] := by
    simp [Table.isEmpty, entries, Table.values]
  rw [validate_eq_ok_iff_defect?, defect?]
  split
  next hblank =>
    simp only [reduceCtorEq, false_iff]
    rintro ⟨happ, hversion, -⟩
    simp [happ, hversion] at hblank
  next hblank =>
    obtain ⟨happ, hversion⟩ := not_or.mp hblank
    split
    next he => simp [hempty.mp he]
    next he =>
      have hne := mt hempty.mpr he
      simp [duplicate?_eq_none_iff, happ, hversion, hne]

def Filed (i : Identity) (s : Schema) : Prop :=
  s.validate = .ok () ∧ s.identity = i

namespace Store

def Sound (s : Store) : Prop :=
  s.schemas.Forall Filed

lemma sound_empty : Store.empty.Sound :=
  Table.forall_empty

lemma Sound.save {s s' : Store} {schema : Schema} (h : s.Sound) (hs : s.save schema = .ok s') :
    s'.Sound := by
  unfold Store.save at hs
  split at hs
  next => simp at hs
  next hd =>
    obtain rfl := Except.ok.inj hs
    exact Table.Forall.insert h ⟨(validate_eq_ok_iff_defect? schema).mpr hd, rfl⟩

lemma Sound.loadPaths {files : Files} {origins : Table Identity String} {s s' : Store}
    {paths : List String} (h : s.Sound) (hs : loadPaths files origins s paths = .ok s') :
    s'.Sound := by
  induction paths generalizing origins s with
  | nil =>
    obtain rfl := Except.ok.inj hs
    exact h
  | cons path paths ih =>
    unfold Schema.loadPaths at hs
    split at hs
    · simp at hs
    · split at hs
      · simp at hs
      · split at hs
        · simp at hs
        next hsave => exact ih (h.save hsave) hs

lemma sound_of_ofDirectory {files : Files} {directory : String} {s : Store}
    (hs : Store.ofDirectory files directory = .ok s) : s.Sound := by
  unfold ofDirectory at hs
  split at hs
  · simp at hs
  · exact sound_empty.loadPaths hs

end Store

end Schema

end Telemetry
