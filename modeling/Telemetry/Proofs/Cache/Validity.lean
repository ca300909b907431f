import Telemetry.Proofs.Cache.Freshness
import Telemetry.Proofs.Schema.Validity

/-! A cache and the store behind it hold valid schemas only, each under its own identity, whatever
is offered to them. What is refused leaves no trace. -/

namespace Telemetry.Cache

open Schema Time

structure Sound (c : Cache) : Prop where
  store : c.source.store.Sound
  held : c.held.Forall fun i h => Filed i h.schema

variable {c : Cache}

lemma sound_new {source : Source} (h : source.store.Sound) (clock : Instant) (ttl : Span) :
    (new source clock ttl).Sound :=
  ⟨h, Table.forall_empty⟩

lemma Sound.get (h : c.Sound) (i : Identity) : (c.get i).2.Sound := by
  rcases hg : c.get i with ⟨r, c'⟩
  cases got_of_get hg with
  | hit => exact h
  | offline => exact ⟨h.store, h.held⟩
  | missing => exact ⟨h.store, h.held.erase i⟩
  | loaded _ _ hstore => exact ⟨h.store, h.held.insert (Table.Forall.of_get? h.store hstore)⟩

lemma Sound.served (h : c.Sound) {i : Identity} {schema : Schema}
    (hr : (c.get i).1 = .ok (some schema)) : Filed i schema := by
  rcases hg : c.get i with ⟨r, c'⟩
  obtain rfl : r = .ok (some schema) := by simpa [hg] using hr
  cases got_of_get hg with
  | hit hheld => exact h.held.of_get? hheld
  | loaded _ _ hstore => exact Table.Forall.of_get? h.store hstore

lemma Sound.save (h : c.Sound) (schema : Schema) : (c.save schema).2.Sound := by
  rcases hs : c.save schema with ⟨r, c'⟩
  cases saved_of_save hs with
  | offline | invalid => exact h
  | stored _ hd =>
    have hfiled : Filed schema.identity schema := ⟨(validate_eq_ok_iff_defect? schema).mpr hd, rfl⟩
    exact ⟨Table.Forall.insert h.store hfiled, h.held.insert hfiled⟩

lemma Sound.saveBehind (h : c.Sound) (schema : Schema) : (c.saveBehind schema).2.Sound := by
  unfold Cache.saveBehind
  split
  next => exact h
  next hs => exact ⟨h.store.save hs, h.held⟩

lemma Sound.step (h : c.Sound) (s : Step) : (c.step s).2.Sound := by
  cases s with
  | get i => exact h.get i
  | save schema => exact h.save schema
  | saveBehind schema => exact h.saveBehind schema
  | invalidate i => exact ⟨h.store, h.held.erase i⟩
  | invalidateAll => exact ⟨h.store, Table.forall_empty⟩
  | advance span =>
    simp only [Cache.step, advance]
    split <;> exact ⟨h.store, h.held⟩
  | setClock t => exact ⟨h.store, h.held⟩
  | setOffline offline => exact ⟨h.store, h.held⟩

lemma Sound.run (h : c.Sound) (steps : List Step) : (c.run steps).Sound := by
  induction steps generalizing c with
  | nil => exact h
  | cons s steps ih => exact ih (h.step s)

lemma save_eq_error_iff (c : Cache) (schema : Schema) :
    (∃ e, (c.save schema).1 = .error e) ↔ c.source.offline = true ∨ schema.validate ≠ .ok () := by
  rcases hs : c.save schema with ⟨r, c'⟩
  rw [ne_eq, validate_eq_ok_iff_defect?]
  cases saved_of_save hs with
  | offline ho => simp [ho]
  | invalid ho hd => simp [ho, hd]
  | stored ho hd => simp [ho, hd]

lemma save_of_error {schema : Schema} {e : SchemaError} (he : (c.save schema).1 = .error e) :
    (c.save schema).2 = c := by
  rcases hs : c.save schema with ⟨r, c'⟩
  obtain rfl : r = .error e := by simpa [hs] using he
  cases saved_of_save hs <;> rfl

lemma saveBehind_eq_error_iff (c : Cache) (schema : Schema) :
    (∃ e, (c.saveBehind schema).1 = .error e) ↔ schema.validate ≠ .ok () := by
  rw [ne_eq, validate_eq_ok_iff_defect?]
  cases hd : schema.defect? <;> simp [saveBehind, Store.save, hd]

lemma saveBehind_of_error {schema : Schema} {e : SchemaError}
    (he : (c.saveBehind schema).1 = .error e) : (c.saveBehind schema).2 = c := by
  unfold saveBehind at he ⊢
  split <;> simp_all

theorem sound_run {source : Source} (hsource : source.store = .empty ∨
    ∃ files directory, Store.ofDirectory files directory = .ok source.store)
    (clock : Instant) (ttl : Span) (steps : List Step) :
    let c := (new source clock ttl).run steps
    (∀ e ∈ c.source.store.schemas.entries, e.2.validate = .ok () ∧ e.2.identity = e.1) ∧
    (∀ e ∈ c.held.entries, e.2.schema.validate = .ok () ∧ e.2.schema.identity = e.1) ∧
    (∀ i schema, (c.get i).1 = .ok (some schema) →
      schema.validate = .ok () ∧ schema.identity = i ∧ (schema.entries.map (·.id)).Nodup) ∧
    ∀ schema,
      ((∃ e, (c.save schema).1 = .error e) ↔
        c.source.offline = true ∨ schema.validate ≠ .ok ()) ∧
      (∀ e, (c.save schema).1 = .error e → (c.save schema).2 = c) ∧
      ((∃ e, (c.saveBehind schema).1 = .error e) ↔ schema.validate ≠ .ok ()) ∧
      ∀ e, (c.saveBehind schema).1 = .error e → (c.saveBehind schema).2 = c := by
  intro c
  have hstart : source.store.Sound := by
    rcases hsource with hempty | ⟨files, directory, hloaded⟩
    · exact hempty ▸ Store.sound_empty
    · exact Store.sound_of_ofDirectory hloaded
  have hc : c.Sound := (sound_new hstart clock ttl).run steps
  refine ⟨hc.store, hc.held, ?_, fun schema => ⟨save_eq_error_iff c schema,
    fun e => save_of_error, saveBehind_eq_error_iff c schema, fun e => saveBehind_of_error⟩⟩
  intro i schema hr
  obtain ⟨hvalid, hidentity⟩ := hc.served hr
  exact ⟨hvalid, hidentity, ((validate_eq_ok_iff schema).mp hvalid).2.2.2⟩

def pumpSchema : Schema :=
  (Schema.new ⟨"pump", "1"⟩).withEntry ⟨2, "flow", "float32", "l/s"⟩

def pumpSteps : List Step :=
  [.save pumpSchema, .saveBehind (Schema.new ⟨"pump", "2"⟩), .setOffline true]

theorem sound_run_pump :
    let c := (new (.new .empty) .epoch (.ofSeconds 60)).run pumpSteps
    (Source.new .empty).store = .empty ∧ (c.get ⟨"pump", "1"⟩).1 = .ok (some pumpSchema) ∧
      pumpSchema.identity = ⟨"pump", "1"⟩ ∧ (pumpSchema.entries.map (·.id)).Nodup ∧
      (c.save pumpSchema).2 = c := by
  intro c
  have hget : (c.get ⟨"pump", "1"⟩).1 = .ok (some pumpSchema) := rfl
  have hsave : (c.save pumpSchema).1 = .error Source.offlineError := rfl
  have hempty : (Source.new .empty).store = .empty := rfl
  obtain ⟨-, -, hserved, hrefused⟩ :=
    sound_run (Or.inl hempty) .epoch (.ofSeconds 60) pumpSteps
  obtain ⟨-, hidentity, hdistinct⟩ := hserved _ _ hget
  exact ⟨hempty, hget, hidentity, hdistinct, (hrefused pumpSchema).2.1 _ hsave⟩

end Telemetry.Cache
