import Mathlib.Tactic.Lemma
import Telemetry.Cache.Basic

namespace Telemetry.Cache

open Schema Time

def Source.asked (s : Source) : Source := { s with reads := s.reads + 1 }

inductive Got (c : Cache) (i : Identity) : Except SchemaError (Option Schema) → Cache → Prop
  | hit {h : Held} : c.held.get? i = some h → c.clock.before h.expires = true →
      Got c i (.ok (some h.schema)) c
  | offline : c.fresh? i = none → c.source.offline = true →
      Got c i (.error Source.offlineError) { c with source := c.source.asked }
  | missing : c.fresh? i = none → c.source.offline = false → c.source.store.get? i = none →
      Got c i (.ok none) { c with source := c.source.asked, held := c.held.erase i }
  | loaded {schema : Schema} : c.fresh? i = none → c.source.offline = false →
      c.source.store.get? i = some schema →
      Got c i (.ok (some schema))
        { c with source := c.source.asked, held := c.held.insert i ⟨schema, c.expiry⟩ }

lemma fresh?_eq_some_iff (c : Cache) (i : Identity) (schema : Schema) :
    c.fresh? i = some schema ↔
      ∃ h, c.held.get? i = some h ∧ c.clock.before h.expires = true ∧ h.schema = schema := by
  simp only [fresh?, Option.bind_eq_some_iff, Option.ite_none_right_eq_some, Option.some.injEq]

lemma got_of_get {c c' : Cache} {i : Identity} {r : Except SchemaError (Option Schema)}
    (h : c.get i = (r, c')) : Got c i r c' := by
  suffices hg : Got c i (c.get i).1 (c.get i).2 by simpa [h] using hg
  unfold get
  cases hf : c.fresh? i with
  | some schema =>
    obtain ⟨h, hheld, hbefore, rfl⟩ := (fresh?_eq_some_iff c i schema).mp hf
    exact .hit hheld hbefore
  | none =>
    cases ho : c.source.offline with
    | true => simpa [Source.read, Source.asked, ho] using Got.offline hf ho
    | false =>
      cases hs : c.source.store.get? i with
      | none => simpa [Source.read, Source.asked, ho, hs] using Got.missing hf ho hs
      | some schema => simpa [Source.read, Source.asked, ho, hs] using Got.loaded hf ho hs

inductive Saved (c : Cache) (schema : Schema) : Except SchemaError Unit → Cache → Prop
  | offline : c.source.offline = true → Saved c schema (.error Source.offlineError) c
  | invalid {e : SchemaError} : c.source.offline = false → schema.defect? = some e →
      Saved c schema (.error e) c
  | stored : c.source.offline = false → schema.defect? = none →
      Saved c schema (.ok ())
        { c with
          source := { c.source with
            store := ⟨c.source.store.schemas.insert schema.identity schema⟩ }
          held := c.held.insert schema.identity ⟨schema, c.expiry⟩ }

lemma saved_of_save {c c' : Cache} {schema : Schema} {r : Except SchemaError Unit}
    (h : c.save schema = (r, c')) : Saved c schema r c' := by
  suffices hs : Saved c schema (c.save schema).1 (c.save schema).2 by simpa [h] using hs
  unfold save Source.save Store.save
  cases ho : c.source.offline with
  | true => exact .offline ho
  | false =>
    cases hd : schema.defect? with
    | some e => exact .invalid ho hd
    | none => simpa [ho] using Saved.stored ho hd

lemma get_clock (c : Cache) (i : Identity) : (c.get i).2.clock = c.clock := by
  rcases h : c.get i with ⟨r, c'⟩
  cases got_of_get h <;> rfl

lemma get_of_agrees {c : Cache} {i : Identity} (honline : c.source.offline = false)
    (hheld : ∀ h, c.held.get? i = some h → c.source.store.get? i = some h.schema) :
    (c.get i).1 = .ok (c.source.store.get? i) := by
  rcases hg : c.get i with ⟨r, c'⟩
  cases got_of_get hg with
  | hit hh _ => exact congrArg Except.ok (hheld _ hh).symm
  | offline _ ho => exact absurd ho (honline ▸ Bool.false_ne_true)
  | missing _ _ hstore => exact congrArg Except.ok hstore.symm
  | loaded _ _ hstore => exact congrArg Except.ok hstore.symm

lemma get_of_save {c c' : Cache} {schema : Schema} (h : c.save schema = (.ok (), c'))
    (t : Instant) : ((c'.setClock t).get schema.identity).1 = .ok (some schema) := by
  cases saved_of_save h with
  | stored honline hdefect =>
    refine (get_of_agrees ?_ fun held hheld => ?_).trans ?_
    · exact honline
    · rw [setClock, Table.get?_insert, if_pos rfl] at hheld
      obtain rfl := Option.some.inj hheld
      simp only [setClock, Store.get?, Table.get?_insert, if_true]
    · simp only [setClock, Store.get?, Table.get?_insert, if_true]

lemma clock_of_save {c c' : Cache} {schema : Schema} {r : Except SchemaError Unit}
    (h : c.save schema = (r, c')) : c'.clock = c.clock := by
  cases saved_of_save h <;> rfl

lemma save_answer {c c' : Cache} {schema : Schema} {r : Except SchemaError Unit}
    (honline : c.source.offline = false) (h : c.save schema = (r, c')) :
    r = match schema.defect? with
      | some e => .error e
      | none => .ok () := by
  cases saved_of_save h with
  | offline ho => exact absurd ho (honline ▸ Bool.false_ne_true)
  | invalid _ hdefect => rw [hdefect]
  | stored _ hdefect => rw [hdefect]

end Telemetry.Cache
