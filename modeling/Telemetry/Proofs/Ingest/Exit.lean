import Mathlib.Tactic.Lemma
import Telemetry.Ingest.Basic
import Telemetry.Proofs.Cache.Step

namespace Telemetry

namespace Ingest

lemma Sink.save_of_accepts {s : Sink} {r : Record} (h : s.accepts r.kind = true) :
    (s.save r).2 = { s with stored := s.stored.push r } ∧ ∃ id, (s.save r).1 = .ok id := by
  simp [save, h]

lemma Sink.save_of_rejects {s : Sink} {r : Record} (h : s.accepts r.kind = false) :
    (s.save r).2 = s ∧ ∃ e, (s.save r).1 = .error e := by
  simp [save, h]

lemma Sink.saveAll_eq (s : Sink) (tally : Tally) (records : List Record) :
    s.saveAll tally records =
      (⟨tally.stored + records.countP fun r => s.accepts r.kind,
        tally.failures + records.countP fun r => !s.accepts r.kind⟩,
       { s with stored := s.stored ++ (records.filter fun r => s.accepts r.kind).toArray }) := by
  induction records generalizing s tally with
  | nil => simp [saveAll]
  | cons r records ih =>
    unfold saveAll
    cases ha : s.accepts r.kind with
    | true =>
      obtain ⟨hs, id, hid⟩ := save_of_accepts ha
      have hsave : s.save r = (.ok id, { s with stored := s.stored.push r }) := Prod.ext hid hs
      have hsame : ∀ name, accepts { s with stored := s.stored.push r } name = s.accepts name :=
        fun _ => rfl
      simp only [hsave, ih, hsame, ha, List.countP_cons, List.filter_cons, if_true, Bool.not_true,
        Bool.false_eq_true, if_false, Nat.add_zero]
      congr 2
      · omega
      · simp
    | false =>
      obtain ⟨hs, e, he⟩ := save_of_rejects ha
      have hsave : s.save r = (.error e, s) := Prod.ext he hs
      simp only [hsave, ih, ha, List.countP_cons, List.filter_cons, Bool.not_false,
        Bool.false_eq_true, if_true, if_false, Nat.add_zero]
      congr 2
      omega

lemma Sink.saveAll_total (s : Sink) (tally : Tally) (records : List Record) :
    (s.saveAll tally records).1.stored + (s.saveAll tally records).1.failures =
      tally.stored + tally.failures + records.length := by
  have hsplit := records.length_eq_countP_add_countP fun r => s.accepts r.kind
  simp only [Bool.not_eq_true, Bool.decide_eq_false] at hsplit
  simp only [saveAll_eq]
  omega

end Ingest

namespace Ingestor

open Ingest Resolution Schema Time Wire

def consulted (i : Ingestor) (device : Device) (body : List UInt8) : Ingestor :=
  { i.countMetrics (·.observeBatchSize body.length) with
    cache := (i.cache.get ⟨device.app, device.version⟩).2 }

inductive Exit (i : Ingestor) (device : Device) (body : List UInt8) :
    Except IngestError Report → Ingestor → Prop
  | tooLarge : i.limits.maxBodyBytes < body.length →
      Exit i device body (.error (.bodyTooLarge body.length i.limits.maxBodyBytes)) i
  | lookupFailed {e : SchemaError} : body.length ≤ i.limits.maxBodyBytes →
      (i.cache.get ⟨device.app, device.version⟩).1 = .error e →
      Exit i device body (.error (.schema e)) (i.consulted device body)
  | noSchema : body.length ≤ i.limits.maxBodyBytes →
      (i.cache.get ⟨device.app, device.version⟩).1 = .ok none →
      Exit i device body (.error (.schemaNotFound ⟨device.app, device.version⟩))
        (i.consulted device body)
  | malformed {schema : Schema} {e : DecodeError} : body.length ≤ i.limits.maxBodyBytes →
      (i.cache.get ⟨device.app, device.version⟩).1 = .ok (some schema) →
      resolveBatch schema.lookup i.cache.clock body = .error e →
      Exit i device body (.error (.decode e))
        ((i.consulted device body).countMetrics (·.countDecodeError e.kind))
  | accepted {schema : Schema} {r : Resolved} : body.length ≤ i.limits.maxBodyBytes →
      (i.cache.get ⟨device.app, device.version⟩).1 = .ok (some schema) →
      resolveBatch schema.lookup i.cache.clock body = .ok r →
      Exit i device body (.ok ((i.consulted device body).accept device r).1)
        ((i.consulted device body).accept device r).2

section Consult

variable {i : Ingestor} {device : Device} {body : List UInt8}

lemma consult_of_lt (h : i.limits.maxBodyBytes < body.length) : i.consult device body =
    (.error (.bodyTooLarge body.length i.limits.maxBodyBytes), i) :=
  if_pos h

lemma consult_of_le (h : body.length ≤ i.limits.maxBodyBytes) : i.consult device body =
    (match (i.cache.get ⟨device.app, device.version⟩).1 with
      | .error e => .error (.schema e)
      | .ok none => .error (.schemaNotFound ⟨device.app, device.version⟩)
      | .ok (some schema) => .ok schema,
     i.consulted device body) :=
  if_neg (Nat.not_lt.mpr h)

lemma ingest_of_fits (hfits : body.length ≤ i.limits.maxBodyBytes) :
    i.ingest device body =
      match (i.cache.get ⟨device.app, device.version⟩).1 with
      | .error e => (.error (.schema e), i.consulted device body)
      | .ok none => (.error (.schemaNotFound ⟨device.app, device.version⟩), i.consulted device body)
      | .ok (some schema) => (i.consulted device body).process device body schema := by
  rw [ingest, consult_of_le hfits]
  rcases (i.cache.get ⟨device.app, device.version⟩).1 with e | (_ | schema) <;> rfl

end Consult

lemma exit_of_ingest {i i' : Ingestor} {device : Device} {body : List UInt8}
    {r : Except IngestError Report} (h : i.ingest device body = (r, i')) :
    Exit i device body r i' := by
  by_cases hsize : i.limits.maxBodyBytes < body.length
  · rw [ingest, consult_of_lt hsize] at h
    obtain ⟨rfl, rfl⟩ := Prod.mk.inj h
    exact .tooLarge hsize
  · have hfits := Nat.le_of_not_lt hsize
    have hclock : (i.consulted device body).cache.clock = i.cache.clock :=
      Cache.get_clock i.cache _
    rw [ingest_of_fits hfits] at h
    split at h
    next e hf =>
      obtain ⟨rfl, rfl⟩ := Prod.mk.inj h
      exact .lookupFailed hfits hf
    next hf =>
      obtain ⟨rfl, rfl⟩ := Prod.mk.inj h
      exact .noSchema hfits hf
    next schema hf =>
      unfold process at h
      rw [hclock] at h
      split at h
      next e he =>
        obtain ⟨rfl, rfl⟩ := Prod.mk.inj h
        exact .malformed hfits hf he
      next r hr =>
        obtain ⟨rfl, rfl⟩ := Prod.mk.inj h
        exact .accepted hfits hf hr

end Ingestor

end Telemetry
