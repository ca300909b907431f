import Telemetry.Cache.Basic

/-! Many clients on one cache. A call takes its steps in order, and between any two of them other
calls may take theirs: the cache is not locked while the store is asked. -/

namespace Telemetry

namespace Cache

open Schema Time

def freshAt? (c : Cache) (now : Instant) (i : Identity) : Option Schema :=
  (c.held.get? i).bind fun h => if now.before h.expires then some h.schema else none

/-- The next step that a call has to take. -/
inductive Call where
  | get (i : Identity)
  | look (i : Identity) (now : Instant)
  | ask (i : Identity) (now : Instant)
  | load (i : Identity) (now : Instant) (reply : Except SchemaError (Option Schema))
  | save (schema : Schema)
  | stamp (schema : Schema)
  | prime (schema : Schema) (now : Instant)

inductive Progress where
  | on (next : Call)
  | done (a : Answer)

def Call.resume (c : Cache) : Call → Progress × Cache
  | get i => (.on (.look i c.clock), c)
  | look i now =>
    match c.freshAt? now i with
    | some schema => (.done (.got (.ok (some schema))), c)
    | none => (.on (.ask i now), c)
  | ask i now =>
    let (reply, source) := c.source.read i
    (.on (.load i now reply), { c with source })
  | load _ _ (.error e) => (.done (.got (.error e)), c)
  | load i _ (.ok none) => (.done (.got (.ok none)), { c with held := c.held.erase i })
  | load i now (.ok (some schema)) =>
    (.done (.got (.ok (some schema))), { c with held := c.held.insert i ⟨schema, now.add c.ttl⟩ })
  | save schema =>
    match c.source.save schema with
    | .error e => (.done (.saved (.error e)), c)
    | .ok source => (.on (.stamp schema), { c with source })
  | stamp schema => (.on (.prime schema c.clock), c)
  | prime schema now =>
    (.done (.saved (.ok ())),
      { c with held := c.held.insert schema.identity ⟨schema, now.add c.ttl⟩ })

/-- What can be seen of a step from outside the cache: the store answers a client, or the cache
takes up such an answer. -/
inductive Event where
  | read (client : Nat) (i : Identity)
  | accepted (client : Nat) (i : Identity)
  | put (client : Nat) (i : Identity)
deriving DecidableEq

def Call.event? (c : Cache) (client : Nat) : Call → Option Event
  | ask i _ => some (.read client i)
  | load i _ (.ok _) => some (.put client i)
  | save schema =>
    match c.source.save schema with
    | .error _ => none
    | .ok _ => some (.accepted client schema.identity)
  | prime schema _ => some (.put client schema.identity)
  | _ => none

end Cache

structure CacheSystem where
  cache : Cache
  calls : Table Nat Cache.Call
  log : List Cache.Event

namespace CacheSystem

open Cache Schema Time

def new (cache : Cache) : CacheSystem := ⟨cache, ∅, []⟩

inductive Move where
  | get (client : Nat) (i : Identity)
  | save (client : Nat) (schema : Schema)
  | resume (client : Nat)
  | setClock (t : Instant)
  | setOffline (offline : Bool)

def start (s : CacheSystem) (client : Nat) (call : Call) : CacheSystem :=
  if s.calls.contains client then s else { s with calls := s.calls.insert client call }

def resume (s : CacheSystem) (client : Nat) : CacheSystem :=
  match s.calls.get? client with
  | none => s
  | some call =>
    let (progress, cache) := call.resume s.cache
    { cache
      calls :=
        match progress with
        | .on next => s.calls.insert client next
        | .done _ => s.calls.erase client
      log := s.log ++ (call.event? s.cache client).toList }

def step (s : CacheSystem) : Move → CacheSystem
  | .get client i => s.start client (.get i)
  | .save client schema => s.start client (.save schema)
  | .resume client => s.resume client
  | .setClock t => { s with cache := s.cache.setClock t }
  | .setOffline offline => { s with cache := s.cache.setOffline offline }

def run (s : CacheSystem) (moves : List Move) : CacheSystem :=
  moves.foldl step s

def Quiet (s : CacheSystem) : Prop :=
  ∀ client, s.calls.get? client = none

end CacheSystem

end Telemetry
