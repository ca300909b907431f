import Telemetry.Schema.Store

namespace Telemetry.Cache

open Schema Time

structure Source where
  store : Store
  offline : Bool
  reads : Nat

namespace Source

def new (store : Store) : Source := ⟨store, false, 0⟩

def offlineError : SchemaError := .store "store offline"

def read (s : Source) (i : Identity) : Except SchemaError (Option Schema) × Source :=
  (if s.offline then .error offlineError else .ok (s.store.get? i),
    ⟨s.store, s.offline, s.reads + 1⟩)

def save (s : Source) (schema : Schema) : Except SchemaError Source :=
  if s.offline then .error offlineError
  else
    match s.store.save schema with
    | .ok store => .ok ⟨store, s.offline, s.reads⟩
    | .error e => .error e

end Source

structure Held where
  schema : Schema
  expires : Instant

end Cache

structure Cache where
  source : Cache.Source
  clock : Time.Instant
  ttl : Time.Span
  held : Table Schema.Identity Cache.Held

namespace Cache

open Schema Time

def new (source : Source) (clock : Instant) (ttl : Span) : Cache := ⟨source, clock, ttl, ∅⟩

def size (c : Cache) : Nat := c.held.size

def isEmpty (c : Cache) : Bool := c.held.isEmpty

def expiry (c : Cache) : Instant := c.clock.add c.ttl

def fresh? (c : Cache) (i : Identity) : Option Schema :=
  (c.held.get? i).bind fun h => if c.clock.before h.expires then some h.schema else none

def get (c : Cache) (i : Identity) : Except SchemaError (Option Schema) × Cache :=
  match c.fresh? i with
  | some schema => (.ok (some schema), c)
  | none =>
    match c.source.read i with
    | (.error e, source) => (.error e, { c with source })
    | (.ok none, source) => (.ok none, { c with source, held := c.held.erase i })
    | (.ok (some schema), source) =>
      (.ok (some schema), { c with source, held := c.held.insert i ⟨schema, c.expiry⟩ })

def save (c : Cache) (schema : Schema) : Except SchemaError Unit × Cache :=
  match c.source.save schema with
  | .error e => (.error e, c)
  | .ok source =>
    (.ok (), { c with source, held := c.held.insert schema.identity ⟨schema, c.expiry⟩ })

def invalidate (c : Cache) (i : Identity) : Cache := { c with held := c.held.erase i }

def invalidateAll (c : Cache) : Cache := { c with held := ∅ }

def saveBehind (c : Cache) (schema : Schema) : Except SchemaError Unit × Cache :=
  match c.source.store.save schema with
  | .error e => (.error e, c)
  | .ok store => (.ok (), { c with source := { c.source with store } })

def setOffline (c : Cache) (offline : Bool) : Cache :=
  { c with source := { c.source with offline } }

def setClock (c : Cache) (t : Instant) : Cache := { c with clock := t }

/-- The clock stops at the last moment there is. A span that is too long for one step does not move
it. -/
def advance (c : Cache) (s : Span) : Cache :=
  if s.nanos ≤ Span.longestStep.nanos then { c with clock := c.clock.add s } else c

end Cache

namespace Cache

inductive Step where
  | get (i : Schema.Identity)
  | save (schema : Schema)
  | saveBehind (schema : Schema)
  | invalidate (i : Schema.Identity)
  | invalidateAll
  | advance (s : Time.Span)
  | setClock (t : Time.Instant)
  | setOffline (offline : Bool)

inductive Answer where
  | got (r : Except SchemaError (Option Schema))
  | saved (r : Except SchemaError Unit)
  | clock (t : Time.Instant)
  | done

def step (c : Cache) : Step → Answer × Cache
  | .get i => let (r, c) := c.get i; (.got r, c)
  | .save schema => let (r, c) := c.save schema; (.saved r, c)
  | .saveBehind schema => let (r, c) := c.saveBehind schema; (.saved r, c)
  | .invalidate i => (.done, c.invalidate i)
  | .invalidateAll => (.done, c.invalidateAll)
  | .advance s => let c := c.advance s; (.clock c.clock, c)
  | .setClock t => (.clock t, c.setClock t)
  | .setOffline offline => (.done, c.setOffline offline)

end Cache

end Telemetry
