import Mathlib.Data.List.Induction
import Telemetry.Proofs.Cache.Step

/-! Where the schemas that a cache serves come from: each was in the store at some moment of the run
from which on nothing happened that should have made the cache forget it. -/

namespace Telemetry.Cache

open Schema Time

def run (c : Cache) (steps : List Step) : Cache :=
  steps.foldl (fun c s => (c.step s).2) c

@[simp] lemma run_nil (c : Cache) : c.run [] = c := rfl

@[simp] lemma run_cons (c : Cache) (s : Step) (steps : List Step) :
    c.run (s :: steps) = (c.step s).2.run steps := rfl

lemma step_ttl (c : Cache) (s : Step) : (c.step s).2.ttl = c.ttl := by
  cases s with
  | get j =>
    rcases hg : c.get j with ⟨r, c'⟩
    simp only [step, hg]
    cases got_of_get hg <;> rfl
  | save schema =>
    rcases hs : c.save schema with ⟨r, c'⟩
    simp only [step, hs]
    cases saved_of_save hs <;> rfl
  | saveBehind schema => simp only [step, saveBehind]; split <;> rfl
  | advance span => simp only [step, advance]; split <;> rfl
  | _ => rfl

lemma run_ttl (c : Cache) (steps : List Step) : (c.run steps).ttl = c.ttl := by
  induction steps generalizing c with
  | nil => rfl
  | cons s steps ih => rw [run_cons, ih, step_ttl]

end Telemetry.Cache
