import Mathlib.Data.List.Basic
import Telemetry.Cache.Concurrent
import Telemetry.Proofs.Cache.Step

/-! Many clients on one cache. When no call is in progress, what is held is what the store holds,
unless the call that put it in was overtaken: the store had accepted another schema in the meantime,
and that one had been put in already. -/

namespace Telemetry

open Cache Schema Time

namespace Cache

namespace Event

def client : Event → ℕ
  | read p _ | accepted p _ | put p _ => p

def Answers (p : ℕ) (i : Identity) (e : Event) : Prop :=
  e = .read p i ∨ e = .accepted p i

end Event

def Silent (p : ℕ) (log : List Event) : Prop :=
  ∀ e ∈ log, e.client ≠ p

lemma silent_nil (p : ℕ) : Silent p [] :=
  List.forall_mem_nil _

lemma Silent.snoc {p : ℕ} {log : List Event} {e : Event} (h : Silent p log) (he : e.client ≠ p) :
    Silent p (log ++ [e]) :=
  List.forall_mem_append.mpr ⟨h, List.forall_mem_singleton.mpr he⟩

def Unaccepted (i : Identity) (log : List Event) : Prop :=
  ∀ p, .accepted p i ∉ log

def Unput (i : Identity) (log : List Event) : Prop :=
  ∀ p, .put p i ∉ log

def Saves (i : Identity) (log : List Event) : Prop :=
  ∃ before q middle after, log = before ++ .accepted q i :: (middle ++ .put q i :: after) ∧
    Silent q middle

/-- The last call that put something in under this identity, or removed it, was overtaken: from the
answer of the store on until then, a whole save took place. -/
def Late (i : Identity) (log : List Event) : Prop :=
  ∃ before e between p after, log = before ++ e :: (between ++ .put p i :: after) ∧
    e.Answers p i ∧ Silent p between ∧ Unput i after ∧ Saves i between

namespace Call

def carries? : Call → Option (Identity × Option Schema)
  | load i _ (.ok found) => some (i, found)
  | stamp schema | prime schema _ => some (schema.identity, some schema)
  | _ => none

def owes? : Call → Option Identity
  | stamp schema | prime schema _ => some schema.identity
  | _ => none

end Call

section Alone

inductive Runs : Cache → Call → Answer → Cache → Prop
  | done {c c' : Cache} {call : Call} {a : Answer} : call.resume c = (.done a, c') →
      Runs c call a c'
  | on {c c' c'' : Cache} {call next : Call} {a : Answer} : call.resume c = (.on next, c') →
      Runs c' next a c'' → Runs c call a c''

variable (c : Cache)

lemma resume_look {i : Identity} (h : c.fresh? i = none) :
    (Call.look i c.clock).resume c = (.on (.ask i c.clock), c) := by
  have hmiss : c.freshAt? c.clock i = none := h
  simp only [Call.resume, hmiss]

lemma resume_ask (i : Identity) (now : Instant) : (Call.ask i now).resume c =
    (.on (.load i now (c.source.read i).1), { c with source := c.source.asked }) :=
  rfl

theorem get_alone (i : Identity) : Runs c (.get i) (.got (c.get i).1) (c.get i).2 := by
  refine .on rfl ?_
  rcases hg : c.get i with ⟨r, c'⟩
  cases got_of_get hg with
  | @hit h hheld hbefore =>
    have hfresh : c.freshAt? c.clock i = some h.schema :=
      (fresh?_eq_some_iff c i h.schema).mpr ⟨h, hheld, hbefore, rfl⟩
    exact .done (by simp only [Call.resume, hfresh])
  | offline hfresh hoffline =>
    have hreply : (c.source.read i).1 = .error Source.offlineError := by
      simp [Source.read, hoffline]
    refine .on (c.resume_look hfresh) (.on (c.resume_ask i _) (.done ?_))
    rw [hreply]
    rfl
  | missing hfresh honline hstore =>
    have hreply : (c.source.read i).1 = .ok none := by simp [Source.read, honline, hstore]
    refine .on (c.resume_look hfresh) (.on (c.resume_ask i _) (.done ?_))
    rw [hreply]
    rfl
  | @loaded schema hfresh honline hstore =>
    have hreply : (c.source.read i).1 = .ok (some schema) := by simp [Source.read, honline, hstore]
    refine .on (c.resume_look hfresh) (.on (c.resume_ask i _) (.done ?_))
    rw [hreply]
    rfl

theorem save_alone (schema : Schema) :
    Runs c (.save schema) (.saved (c.save schema).1) (c.save schema).2 := by
  unfold Cache.save
  cases hs : c.source.save schema with
  | error e => exact .done (by simp only [Call.resume, hs])
  | ok source =>
    have htaken : (Call.save schema).resume c = (.on (.stamp schema), { c with source }) := by
      simp only [Call.resume, hs]
    exact .on htaken (.on rfl (.done rfl))

end Alone

lemma Source.get?_of_save {source source' : Source} {schema : Schema}
    (h : source.save schema = .ok source') (i : Identity) : source'.store.get? i =
      if schema.identity = i then some schema else source.store.get? i := by
  unfold Source.save Store.save at h
  split at h
  next => cases h
  next =>
    cases hd : schema.defect? with
    | some e => simp only [hd, reduceCtorEq] at h
    | none =>
      simp only [hd, Except.ok.injEq] at h
      subst h
      exact Table.get?_insert _ _ _ _

section Log

variable {log before after : List Event} {ev e : Event} {i : Identity}

lemma snoc_eq_iff : log ++ [ev] = before ++ e :: after ↔
    (after = [] ∧ e = ev ∧ before = log) ∨
      ∃ earlier, after = earlier ++ [ev] ∧ log = before ++ e :: earlier := by
  constructor
  · intro h
    rcases List.eq_nil_or_concat after with rfl | ⟨earlier, last, rfl⟩
    · obtain ⟨hlog, hev⟩ := List.append_inj' h rfl
      exact .inl ⟨rfl, (List.cons.inj hev).1.symm, hlog.symm⟩
    · rw [List.concat_eq_append, ← List.cons_append, ← List.append_assoc] at h
      obtain ⟨hlog, hev⟩ := List.append_inj' h rfl
      exact .inr ⟨earlier, by rw [List.concat_eq_append, hev], hlog⟩
  · rintro (⟨rfl, rfl, rfl⟩ | ⟨earlier, rfl, rfl⟩)
    · rfl
    · simp

lemma append_put_cases {middle rest between : List Event} {p q : ℕ}
    (h : between ++ .put p i :: after = middle ++ .put q i :: rest) :
    (∃ more, between = middle ++ .put q i :: more) ∨ p = q ∧ between = middle ∨
      .put q i ∈ after := by
  rcases List.append_eq_append_iff.mp h with ⟨more, rfl, hmore⟩ | ⟨more, rfl, hmore⟩
  · cases more with
    | nil =>
      obtain ⟨hput, -⟩ := List.cons.inj hmore
      obtain ⟨rfl, -⟩ := Event.put.inj hput
      exact .inr (.inl ⟨rfl, (List.append_nil _).symm⟩)
    | cons e more =>
      obtain ⟨-, rfl⟩ := List.cons.inj hmore
      exact .inr (.inr (by simp))
  · cases more with
    | nil =>
      obtain ⟨hput, -⟩ := List.cons.inj hmore
      obtain ⟨rfl, -⟩ := Event.put.inj hput
      exact .inr (.inl ⟨rfl, List.append_nil _⟩)
    | cons e more =>
      obtain ⟨rfl, -⟩ := List.cons.inj hmore
      exact .inl ⟨more, rfl⟩

end Log

end Cache

namespace CacheSystem

variable {s t : CacheSystem} {p : ℕ} {i : Identity} {e : Event}

def stored? (s : CacheSystem) (i : Identity) : Option Schema :=
  s.cache.source.store.get? i

def carried? (s : CacheSystem) (p : ℕ) : Option (Identity × Option Schema) :=
  (s.calls.get? p).bind Call.carries?

def owed? (s : CacheSystem) (p : ℕ) : Option Identity :=
  (s.calls.get? p).bind Call.owes?

def Informed (s : CacheSystem) (p : ℕ) (i : Identity) (found : Option Schema) : Prop :=
  ∃ before answer since, s.log = before ++ answer :: since ∧ answer.Answers p i ∧ Silent p since ∧
    (Unaccepted i since → s.stored? i = found)

def Placed (s : CacheSystem) (i : Identity) (schema : Schema) : Prop :=
  ∃ before answer between p after, s.log = before ++ answer :: (between ++ .put p i :: after) ∧
    answer.Answers p i ∧ Silent p between ∧ Unput i after ∧
    (Unaccepted i (between ++ after) → s.stored? i = some schema)

def Followed (s : CacheSystem) (p : ℕ) (i : Identity) (after : List Event) : Prop :=
  (∃ middle rest, after = middle ++ .put p i :: rest ∧ Silent p middle) ∨
    s.owed? p = some i ∧ Silent p after

structure Consistent (s : CacheSystem) : Prop where
  carried : ∀ p i found, s.carried? p = some (i, found) → s.Informed p i found
  held : ∀ i h, s.cache.held.get? i = some h → s.Placed i h.schema
  accepted : ∀ before p i after, s.log = before ++ .accepted p i :: after → s.Followed p i after

lemma consistent_new (source : Source) (clock : Instant) (ttl : Span) :
    (new (.new source clock ttl)).Consistent where
  carried p i found h := by cases h
  held i h hheld := by cases hheld
  accepted before p i after h := by simp [new] at h

lemma Consistent.still (h : s.Consistent) (hlog : t.log = s.log)
    (hheld : t.cache.held = s.cache.held) (hstored : ∀ i, t.stored? i = s.stored? i)
    (hcarried : ∀ p, t.carried? p = s.carried? p) (howed : ∀ p, t.owed? p = s.owed? p) :
    t.Consistent where
  carried p i found hfound := by
    have hinformed := h.carried p i found (hcarried p ▸ hfound)
    unfold Informed at hinformed ⊢
    rwa [hlog, hstored]
  held i held hheld' := by
    have hplaced := h.held i held (hheld ▸ hheld')
    unfold Placed at hplaced ⊢
    rwa [hlog, hstored]
  accepted before p i after hsplit := by
    have hfollowed := h.accepted before p i after (hlog ▸ hsplit)
    unfold Followed at hfollowed ⊢
    rwa [howed]

section Grow

structure Grows (s t : CacheSystem) (e : Event) : Prop where
  log : t.log = s.log ++ [e]
  stored : ∀ i, (∀ p, e ≠ .accepted p i) → t.stored? i = s.stored? i

lemma Followed.grow {after : List Event} (h : s.Followed p i after)
    (hother : p ≠ e.client → t.owed? p = s.owed? p)
    (hput : s.owed? e.client = some i → e = .put e.client i) :
    t.Followed p i (after ++ [e]) := by
  rcases h with ⟨middle, rest, rfl, hmiddle⟩ | ⟨howed, hsilent⟩
  · exact .inl ⟨middle, rest ++ [e], by simp, hmiddle⟩
  · by_cases hp : p = e.client
    · subst hp
      exact .inl ⟨after, [], by rw [← hput howed], hsilent⟩
    · exact .inr ⟨(hother hp).trans howed, hsilent.snoc (Ne.symm hp)⟩

variable (hg : Grows s t e)
include hg

lemma Informed.grow {found : Option Schema} (h : s.Informed p i found) (hp : e.client ≠ p) :
    t.Informed p i found := by
  obtain ⟨before, answer, since, hlog, he, hsilent, hstored⟩ := h
  refine ⟨before, answer, since ++ [e], by simp [hg.log, hlog], he, hsilent.snoc hp,
    fun hnone => ?_⟩
  rw [hg.stored i fun q hq => hnone q (by simp [hq])]
  exact hstored fun q hq => hnone q (List.mem_append_left _ hq)

lemma Placed.grow {schema : Schema} (h : s.Placed i schema) (hput : ∀ p, e ≠ .put p i) :
    t.Placed i schema := by
  obtain ⟨before, answer, between, p, after, hlog, he, hsilent, hlast, hstored⟩ := h
  refine ⟨before, answer, between, p, after ++ [e], by simp [hg.log, hlog], he, hsilent, ?_,
    fun hnone => ?_⟩
  · intro q hq
    rcases List.mem_append.mp hq with hq | hq
    · exact hlast q hq
    · exact hput q (List.mem_singleton.mp hq).symm
  · rw [hg.stored i fun q hq => hnone q (by simp [hq])]
    refine hstored fun q hq => hnone q ?_
    rw [← List.append_assoc]
    exact List.mem_append_left _ hq

lemma Consistent.grow (h : s.Consistent)
    (hother : ∀ p, p ≠ e.client → t.calls.get? p = s.calls.get? p)
    (hcarried : ∀ i found, t.carried? e.client = some (i, found) →
      t.Informed e.client i found)
    (hheld : ∀ i h, t.cache.held.get? i = some h →
      s.cache.held.get? i = some h ∧ (∀ p, e ≠ .put p i) ∨ t.Placed i h.schema)
    (hput : ∀ i, s.owed? e.client = some i → e = .put e.client i)
    (haccepted : ∀ i, e = .accepted e.client i → t.owed? e.client = some i) :
    t.Consistent where
  carried p i found hfound := by
    by_cases hp : p = e.client
    · subst hp
      exact hcarried i found hfound
    · rw [carried?, hother p hp] at hfound
      exact (h.carried p i found hfound).grow hg (Ne.symm hp)
  held i held hh := by
    rcases hheld i held hh with ⟨hkept, hnot⟩ | hplaced
    · exact (h.held i held hkept).grow hg hnot
    · exact hplaced
  accepted before p i after hsplit := by
    rw [hg.log, snoc_eq_iff] at hsplit
    rcases hsplit with ⟨rfl, rfl, -⟩ | ⟨earlier, rfl, hlog⟩
    · exact .inr ⟨haccepted i rfl, silent_nil _⟩
    · refine (h.accepted before p i earlier hlog).grow (fun hp => ?_) (hput i)
      rw [owed?, owed?, hother p hp]

end Grow

section Calls

variable {calls : Table ℕ Call} {q : ℕ}

lemma get?_insert_of_ne (next : Call) (h : q ≠ p) :
    (calls.insert p next).get? q = calls.get? q := by
  rw [Table.get?_insert, if_neg h.symm]

lemma get?_insert_self (next : Call) : (calls.insert p next).get? p = some next := by
  rw [Table.get?_insert, if_pos rfl]

lemma get?_erase_of_ne (h : q ≠ p) : (calls.erase p).get? q = calls.get? q := by
  rw [Table.get?_erase, if_neg h.symm]

lemma get?_erase_self : (calls.erase p).get? p = none := by
  rw [Table.get?_erase, if_pos rfl]

variable {cache : Cache} (h : s.Consistent)
include h

lemma Consistent.turn (hother : ∀ q, q ≠ p → calls.get? q = s.calls.get? q)
    (hcarried : s.carried? p = (calls.get? p).bind Call.carries?)
    (howed : s.owed? p = (calls.get? p).bind Call.owes?) (hheld : cache.held = s.cache.held)
    (hstore : cache.source.store = s.cache.source.store) :
    (⟨cache, calls, s.log⟩ : CacheSystem).Consistent := by
  have hat {α : Type} (f : Call → Option α) (hp : (s.calls.get? p).bind f = (calls.get? p).bind f)
      (q : ℕ) : (calls.get? q).bind f = (s.calls.get? q).bind f := by
    by_cases hq : q = p
    · rw [hq, hp]
    · rw [hother q hq]
  apply h.still (t := ⟨cache, calls, s.log⟩) rfl hheld
  · intro i
    simp only [stored?, hstore]
  · exact hat _ hcarried
  · exact hat _ howed

lemma Consistent.proceed {next : Call} (hcarried : s.carried? p = next.carries?)
    (howed : s.owed? p = next.owes?) (hheld : cache.held = s.cache.held)
    (hstore : cache.source.store = s.cache.source.store) :
    (⟨cache, s.calls.insert p next, s.log⟩ : CacheSystem).Consistent := by
  refine h.turn (fun q hq => get?_insert_of_ne next hq) ?_ ?_ hheld hstore
  · rw [get?_insert_self, hcarried, Option.bind_some]
  · rw [get?_insert_self, howed, Option.bind_some]

lemma Consistent.leave (hcarried : s.carried? p = none) (howed : s.owed? p = none)
    (hheld : cache.held = s.cache.held) (hstore : cache.source.store = s.cache.source.store) :
    (⟨cache, s.calls.erase p, s.log⟩ : CacheSystem).Consistent := by
  refine h.turn (fun q hq => get?_erase_of_ne hq) ?_ ?_ hheld hstore
  · rw [get?_erase_self, hcarried, Option.bind_none]
  · rw [get?_erase_self, howed, Option.bind_none]

lemma Consistent.read {now : Instant} (howed : s.owed? p = none) :
    (⟨{ s.cache with source := s.cache.source.asked },
      s.calls.insert p (.load i now (s.cache.source.read i).1),
      s.log ++ [.read p i]⟩ : CacheSystem).Consistent := by
  refine h.grow (e := .read p i) ⟨rfl, fun _ _ => rfl⟩ ?_ ?_ ?_ ?_ ?_
  · exact fun q hq => get?_insert_of_ne _ hq
  · intro j found hfound
    simp only [carried?, Event.client, get?_insert_self, Option.bind_some, Source.read] at hfound
    split at hfound
    next => cases hfound
    next =>
      obtain ⟨rfl, rfl⟩ := Prod.mk.inj (Option.some.inj hfound)
      exact ⟨s.log, _, [], rfl, .inl rfl, silent_nil p, fun _ => rfl⟩
  · exact fun j held hh => .inl ⟨hh, fun q hq => Event.noConfusion hq⟩
  · intro j hj
    rw [Event.client, howed] at hj
    cases hj
  · exact fun j hj => Event.noConfusion hj

lemma Consistent.accept {schema : Schema} {source : Source}
    (hsave : s.cache.source.save schema = .ok source) (howed : s.owed? p = none) :
    (⟨{ s.cache with source }, s.calls.insert p (.stamp schema),
      s.log ++ [.accepted p schema.identity]⟩ : CacheSystem).Consistent := by
  have hstore := Source.get?_of_save hsave
  refine h.grow (e := .accepted p schema.identity) ⟨rfl, fun j hj => ?_⟩ ?_ ?_ ?_ ?_ ?_
  · have hne : schema.identity ≠ j := fun heq => hj p (heq ▸ rfl)
    exact (hstore j).trans (if_neg hne)
  · exact fun q hq => get?_insert_of_ne _ hq
  · intro j found hfound
    simp only [carried?, Event.client, get?_insert_self, Option.bind_some] at hfound
    obtain ⟨rfl, rfl⟩ := Prod.mk.inj (Option.some.inj hfound)
    refine ⟨s.log, _, [], rfl, .inr rfl, silent_nil p, fun _ => ?_⟩
    exact (hstore _).trans (if_pos rfl)
  · exact fun j held hh => .inl ⟨hh, fun q hq => Event.noConfusion hq⟩
  · intro j hj
    rw [Event.client, howed] at hj
    cases hj
  · intro j hj
    obtain ⟨-, rfl⟩ := Event.accepted.inj hj
    simp only [owed?, Event.client, get?_insert_self, Option.bind_some]
    rfl

lemma Consistent.remove (howed : s.owed? p = none) :
    (⟨{ s.cache with held := s.cache.held.erase i }, s.calls.erase p,
      s.log ++ [.put p i]⟩ : CacheSystem).Consistent := by
  refine h.grow (e := .put p i) ⟨rfl, fun _ _ => rfl⟩ ?_ ?_ ?_ ?_ ?_
  · exact fun q hq => get?_erase_of_ne hq
  · intro j found hfound
    simp only [carried?, Event.client, get?_erase_self, Option.bind_none] at hfound
    cases hfound
  · intro j held hh
    rw [Table.get?_erase] at hh
    split at hh
    next => cases hh
    next hne => exact .inl ⟨hh, fun q hq => hne (Event.put.inj hq).2⟩
  · intro j hj
    rw [Event.client, howed] at hj
    cases hj
  · exact fun j hj => Event.noConfusion hj

lemma Consistent.put {schema : Schema} {expires : Instant}
    (hcarried : s.carried? p = some (i, some schema)) (howed : ∀ j, s.owed? p = some j → j = i) :
    (⟨{ s.cache with held := s.cache.held.insert i ⟨schema, expires⟩ }, s.calls.erase p,
      s.log ++ [.put p i]⟩ : CacheSystem).Consistent := by
  refine h.grow (e := .put p i) ⟨rfl, fun _ _ => rfl⟩ ?_ ?_ ?_ ?_ ?_
  · exact fun q hq => get?_erase_of_ne hq
  · intro j found hfound
    simp only [carried?, Event.client, get?_erase_self, Option.bind_none] at hfound
    cases hfound
  · intro j held hh
    rw [Table.get?_insert] at hh
    split at hh
    next heq =>
      obtain rfl := Option.some.inj hh
      subst heq
      obtain ⟨before, answer, since, hlog, he, hsilent, hstored⟩ := h.carried p i _ hcarried
      refine .inr ⟨before, answer, since, p, [], by simp [hlog], he, hsilent,
        fun q => List.not_mem_nil, ?_⟩
      rw [List.append_nil]
      exact hstored
    next hne => exact .inl ⟨hh, fun q hq => hne (Event.put.inj hq).2⟩
  · exact fun j hj => by rw [howed j hj]; rfl
  · exact fun j hj => Event.noConfusion hj

end Calls

section Run

lemma Consistent.start (h : s.Consistent) {call : Call} (hcarries : call.carries? = none)
    (howes : call.owes? = none) (p : ℕ) : (s.start p call).Consistent := by
  unfold CacheSystem.start
  split
  next => exact h
  next hfree =>
    have hidle : s.calls.get? p = none := by simpa [Table.contains] using hfree
    apply h.proceed
    · rw [carried?, hidle, hcarries, Option.bind_none]
    · rw [owed?, hidle, howes, Option.bind_none]
    · rfl
    · rfl

lemma Consistent.resume (h : s.Consistent) (p : ℕ) : (s.resume p).Consistent := by
  unfold CacheSystem.resume
  cases hcall : s.calls.get? p with
  | none => exact h
  | some call =>
    have hcarried : s.carried? p = call.carries? := by rw [carried?, hcall, Option.bind_some]
    have howed : s.owed? p = call.owes? := by rw [owed?, hcall, Option.bind_some]
    cases call with
    | get i =>
      simp only [Call.resume, Call.event?, Option.toList_none, List.append_nil]
      exact h.proceed hcarried howed rfl rfl
    | look i now =>
      simp only [Call.resume, Call.event?, Option.toList_none, List.append_nil]
      cases s.cache.freshAt? now i with
      | none => exact h.proceed hcarried howed rfl rfl
      | some schema => exact h.leave hcarried howed rfl rfl
    | ask i now => exact h.read howed
    | load i now reply =>
      cases reply with
      | error e =>
        simp only [Call.resume, Call.event?, Option.toList_none, List.append_nil]
        exact h.leave hcarried howed rfl rfl
      | ok found =>
        cases found with
        | none => exact h.remove howed
        | some schema =>
          refine h.put hcarried fun j hj => ?_
          rw [howed] at hj
          cases hj
    | save schema =>
      cases hsave : s.cache.source.save schema with
      | error e =>
        simp only [Call.resume, Call.event?, hsave, Option.toList_none, List.append_nil]
        exact h.leave hcarried howed rfl rfl
      | ok source =>
        simp only [Call.resume, Call.event?, hsave]
        exact h.accept hsave howed
    | stamp schema =>
      simp only [Call.resume, Call.event?, Option.toList_none, List.append_nil]
      exact h.proceed hcarried howed rfl rfl
    | prime schema now =>
      exact h.put hcarried fun j hj => (Option.some.inj (howed.symm.trans hj)).symm

lemma Consistent.step (h : s.Consistent) (m : Move) : (s.step m).Consistent := by
  cases m with
  | get p i => exact h.start rfl rfl p
  | save p schema => exact h.start rfl rfl p
  | resume p => exact h.resume p
  | setClock now => exact h.still rfl rfl (fun _ => rfl) (fun _ => rfl) fun _ => rfl
  | setOffline offline => exact h.still rfl rfl (fun _ => rfl) (fun _ => rfl) fun _ => rfl

lemma Consistent.run (h : s.Consistent) (moves : List Move) : (s.run moves).Consistent := by
  induction moves generalizing s with
  | nil => exact h
  | cons m moves ih => exact ih (h.step m)

end Run

lemma Consistent.exists_put (h : s.Consistent) (hquiet : s.Quiet) {before after : List Event}
    (hlog : s.log = before ++ .accepted p i :: after) :
    ∃ middle rest, after = middle ++ .put p i :: rest ∧ Silent p middle := by
  rcases h.accepted before p i after hlog with hput | ⟨howed, -⟩
  · exact hput
  · rw [owed?, hquiet p] at howed
    cases howed

lemma Consistent.stored_or_late (h : s.Consistent) (hquiet : s.Quiet) {held : Held}
    (hheld : s.cache.held.get? i = some held) :
    s.stored? i = some held.schema ∨ Late i s.log := by
  obtain ⟨before, answer, between, p, after, hlog, he, hsilent, hlast, hstored⟩ :=
    h.held i held hheld
  by_cases hnone : Unaccepted i (between ++ after)
  · exact .inl (hstored hnone)
  · -- something was accepted since the answer: before the entry was put in it makes that late, and
    -- after it something else would have been put in
    right
    obtain ⟨q, hq⟩ := not_forall_not.mp hnone
    rcases List.mem_append.mp hq with hq | hq
    · obtain ⟨earlier, later, rfl⟩ := List.append_of_mem hq
      obtain ⟨middle, rest, hsplit, hmiddle⟩ := h.exists_put hquiet
        (show s.log = (before ++ answer :: earlier) ++ .accepted q i ::
          (later ++ .put p i :: after) by simp [hlog])
      refine ⟨before, answer, _, p, after, hlog, he, hsilent, hlast, ?_⟩
      rcases append_put_cases hsplit with ⟨more, rfl⟩ | ⟨rfl, -⟩ | hafter
      · exact ⟨earlier, q, middle, more, rfl, hmiddle⟩
      · exact absurd rfl (hsilent (.accepted p i) hq)
      · exact absurd hafter (hlast q)
    · obtain ⟨earlier, later, rfl⟩ := List.append_of_mem hq
      obtain ⟨middle, rest, rfl, -⟩ := h.exists_put hquiet
        (show s.log = (before ++ answer :: (between ++ .put p i :: earlier)) ++ .accepted q i ::
          later by simp [hlog])
      exact absurd (by simp) (hlast q)

/-- A cache that began empty, after any steps of any calls, at a moment at which none is going on.
What it holds under an identity, fresh or not, is what the store holds there, unless it was put in
late. -/
theorem stored_or_late_of_quiet {source : Source} {clock : Instant} {ttl : Span}
    {moves : List Move} (hquiet : ((new (.new source clock ttl)).run moves).Quiet) (i : Identity)
    (h : Held) (hheld : ((new (.new source clock ttl)).run moves).cache.held.get? i = some h) :
    ((new (.new source clock ttl)).run moves).cache.source.store.get? i = some h.schema ∨
      Late i ((new (.new source clock ttl)).run moves).log :=
  ((consistent_new source clock ttl).run moves).stored_or_late hquiet hheld

def pumpSchema (unit : String) : Schema :=
  (Schema.new ⟨"pump", "1"⟩).withEntry ⟨2, "flow", "float32", unit⟩

def pumpId : Identity := ⟨"pump", "1"⟩

def pumpMoves : List Move :=
  [.save 0 (pumpSchema "l/s"), .resume 0, .resume 0, .resume 0,
    .setClock (Instant.epoch.add (.ofSeconds 60)), .get 0 pumpId, .resume 0, .resume 0]

def orderedMoves : List Move :=
  pumpMoves ++ [.save 1 (pumpSchema "m3/h"), .resume 1, .resume 0, .resume 1, .resume 1, .resume 0]

def overtakenMoves : List Move :=
  pumpMoves ++ [.resume 0, .save 1 (pumpSchema "m3/h"), .resume 1, .resume 1, .resume 1, .resume 0]

theorem stored_or_late_of_quiet_pump :
    let s := (new (.new (.new .empty) .epoch (.ofSeconds 60))).run orderedMoves
    s.Quiet ∧ ∃ h, s.cache.held.get? pumpId = some h ∧ h.schema = pumpSchema "m3/h" ∧
      (s.cache.source.store.get? pumpId = some h.schema ∨ Late pumpId s.log) := by
  have hquiet : ((new (.new (.new .empty) .epoch (.ofSeconds 60))).run orderedMoves).Quiet :=
    fun _ => rfl
  exact ⟨hquiet, _, rfl, rfl, stored_or_late_of_quiet hquiet _ _ rfl⟩

theorem save_masked_by_older_answer : ¬ ∀ (source : Source) (clock : Instant) (ttl : Span)
    (moves : List Move), ((new (.new source clock ttl)).run moves).Quiet → ∀ i h,
    ((new (.new source clock ttl)).run moves).cache.held.get? i = some h →
    ((new (.new source clock ttl)).run moves).cache.clock.before h.expires = true →
    ((new (.new source clock ttl)).run moves).cache.source.store.get? i = some h.schema := by
  intro hall
  have h := hall (.new .empty) .epoch (.ofSeconds 60) overtakenMoves (fun _ => rfl) pumpId _ rfl rfl
  have hunits := congrArg (Option.map fun s => s.entries.map (·.unit)) h
  revert hunits
  decide

end CacheSystem

end Telemetry
