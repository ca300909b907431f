/-! Finite maps that keep their keys in the order of first insertion. -/

namespace Telemetry

universe u v

structure Table (κ : Type u) (ν : Type v) where
  entries : List (κ × ν)
  nodup : (entries.map Prod.fst).Nodup

namespace Table

variable {κ : Type u} {ν : Type v}

def empty : Table κ ν := ⟨[], by simp⟩

instance : EmptyCollection (Table κ ν) := ⟨empty⟩

instance : Inhabited (Table κ ν) := ⟨empty⟩

def size (t : Table κ ν) : Nat := t.entries.length

def isEmpty (t : Table κ ν) : Bool := t.entries.isEmpty

def values (t : Table κ ν) : List ν := t.entries.map Prod.snd

variable [DecidableEq κ]

def find? (k : κ) (es : List (κ × ν)) : Option ν :=
  (es.find? (·.1 = k)).map Prod.snd

def get? (t : Table κ ν) (k : κ) : Option ν := find? k t.entries

def contains (t : Table κ ν) (k : κ) : Bool := (t.get? k).isSome

def put (k : κ) (v : ν) : List (κ × ν) → List (κ × ν)
  | [] => [(k, v)]
  | e :: es => if e.1 = k then (k, v) :: es else e :: put k v es

theorem keys_put (k : κ) (v : ν) (es : List (κ × ν)) :
    (put k v es).map Prod.fst =
      if k ∈ es.map Prod.fst then es.map Prod.fst else es.map Prod.fst ++ [k] := by
  induction es with
  | nil => simp [put]
  | cons e es ih =>
    by_cases h : e.1 = k
    · simp [put, h]
    · have h' : k ≠ e.1 := fun hk => h hk.symm
      simp only [put, h, if_false, List.map_cons, ih, List.mem_cons, h', false_or]
      split <;> rfl

theorem nodup_put (k : κ) (v : ν) (es : List (κ × ν)) (h : (es.map Prod.fst).Nodup) :
    ((put k v es).map Prod.fst).Nodup := by
  rw [keys_put]
  split
  · exact h
  next hk => exact List.nodup_append.2 ⟨h, by simp, by simp; exact fun a b hab e => hk (by
      simpa using ⟨b, e ▸ hab⟩)⟩

def insert (t : Table κ ν) (k : κ) (v : ν) : Table κ ν :=
  ⟨put k v t.entries, nodup_put k v t.entries t.nodup⟩

def erase (t : Table κ ν) (k : κ) : Table κ ν :=
  ⟨t.entries.filter fun e => decide (e.1 ≠ k), (List.filter_sublist.map _).nodup t.nodup⟩

def ofList (l : List (κ × ν)) : Table κ ν :=
  l.foldl (fun t e => t.insert e.1 e.2) ∅

def map {μ : Type v} (f : κ → ν → μ) (t : Table κ ν) : Table κ μ :=
  ⟨t.entries.map fun e => (e.1, f e.1 e.2), by
    simpa [List.map_map, Function.comp_def] using t.nodup⟩

theorem find?_put (k k' : κ) (v : ν) (es : List (κ × ν)) :
    find? k' (put k v es) = if k = k' then some v else find? k' es := by
  induction es with
  | nil => by_cases h : k = k' <;> simp [put, find?, h]
  | cons e es ih =>
    by_cases he : e.1 = k <;> by_cases h : k = k' <;> by_cases h' : e.1 = k' <;>
      simp_all [put, find?]

@[simp] theorem get?_empty (k : κ) : (∅ : Table κ ν).get? k = none := rfl

theorem get?_insert (t : Table κ ν) (k k' : κ) (v : ν) :
    (t.insert k v).get? k' = if k = k' then some v else t.get? k' :=
  find?_put k k' v t.entries

theorem get?_erase (t : Table κ ν) (k k' : κ) :
    (t.erase k).get? k' = if k = k' then none else t.get? k' := by
  simp only [get?, erase, find?]
  induction t.entries with
  | nil => simp
  | cons e es ih =>
    by_cases he : e.1 = k <;> by_cases h : k = k' <;> by_cases h' : e.1 = k' <;>
      simp_all

end Table

end Telemetry
