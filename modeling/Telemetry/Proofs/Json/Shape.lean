import Telemetry.Json.Shape
import Telemetry.Proofs.Json.RoundTrip

namespace Telemetry.Json

open Number

section Legal

lemma legalElements_iff (vs : List Value) : legalElements vs ↔ ∀ v ∈ vs, v.Legal := by
  induction vs with
  | nil => simp [legalElements]
  | cons v vs ih => simp [legalElements, ih]

lemma legalMembers_iff (ms : List (Option String × Value)) :
    legalMembers ms ↔ ∀ m ∈ ms, m.2.Legal := by
  induction ms with
  | nil => simp [legalMembers]
  | cons m ms ih => simp [legalMembers, ih]

@[simp] lemma Value.legal_text (s : String) : (Value.text s).Legal :=
  trivial

@[simp] lemma Value.legal_nat (n : ℕ) : (Value.nat n).Legal :=
  Numeral.legal_ofInt n

@[simp] lemma Value.legal_array_iff (vs : List Value) : (Value.array vs).Legal ↔
    ∀ v ∈ vs, v.Legal :=
  legalElements_iff vs

@[simp] lemma Value.legal_record_iff (members : List (String × Value)) :
    (Value.record members).Legal ↔ ∀ m ∈ members, m.2.Legal := by
  refine (legalMembers_iff _).trans ?_
  simp only [List.forall_mem_map]

end Legal

lemma namedMembers_map (members : List (String × Value)) :
    namedMembers (members.map fun (k, v) => (some k, v)) = some members := by
  induction members with
  | nil => rfl
  | cons m members ih =>
    simp only [namedMembers, List.map_cons, List.mapM_cons] at ih ⊢
    simp [ih]

lemma Value.fields?_record (names : List String) (members : List (String × Value)) :
    (Value.record members).fields? names = names.mapM (member? members) := by
  simp only [Value.record, Value.fields?, namedMembers_map]
  rfl

lemma Value.uint64?_nat {n : ℕ} (hn : n < 2 ^ 64) : (Value.nat n).uint64? = some (.ofNat n) := by
  have hword := Numeral.word?_ofInt (i := n) (by omega) (by omega)
  simp [Value.uint64?, Value.nat, Value.int, Value.integer?, hword]

lemma Value.uint32?_toNat (x : UInt32) : (Value.nat x.toNat).uint32? = some x := by
  have hx := x.toNat_lt
  have hword := Numeral.word?_ofInt (i := x.toNat) (by omega) (by omega)
  have hrange : (0 : ℤ) ≤ x.toNat ∧ (x.toNat : ℤ) < 4294967296 := ⟨by omega, by omega⟩
  simp only [Value.uint32?, Value.nat, Value.int, Value.integer?, hword, Option.filter_some,
    hrange, and_self, decide_true, if_true, Option.map_some, Int.toNat_natCast, UInt32.ofNat_toNat]

lemma mapM_map {α β γ : Type} {f : α → β} {g : β → Option γ} {h : α → γ} {xs : List α}
    (hx : ∀ x ∈ xs, g (f x) = some (h x)) : (xs.map f).mapM g = some (xs.map h) := by
  induction xs with
  | nil => rfl
  | cons x xs ih =>
    obtain ⟨hhead, htail⟩ := List.forall_mem_cons.mp hx
    rw [List.map_cons, List.mapM_cons, hhead, ih htail]
    rfl

section Sorted

lemma sortedElements_eq_map (vs : List Value) : sortedElements vs = vs.map Value.sorted := by
  induction vs with
  | nil => rfl
  | cons v vs ih => rw [sortedElements, ih, List.map_cons]

lemma sortedMembers_eq_map (ms : List (Option String × Value)) :
    sortedMembers ms = ms.map fun m => (m.1, m.2.sorted) := by
  induction ms with
  | nil => rfl
  | cons m ms ih => rw [sortedMembers, ih, List.map_cons]

mutual

lemma Value.legal_sorted : ∀ {v : Value}, v.Legal → v.sorted.Legal
  | .null, h | .bool _, h | .number _, h | .string _, h => h
  | .array _, h => legalElements_sorted h
  | .object _, h => by
    have hmembers := (legalMembers_iff _).mp (legalMembers_sorted h)
    exact (legalMembers_iff _).mpr fun m hm => hmembers m (List.mem_mergeSort.mp hm)

lemma legalElements_sorted : ∀ {vs : List Value}, legalElements vs →
    legalElements (sortedElements vs)
  | [], h => h
  | _ :: _, h => ⟨Value.legal_sorted h.1, legalElements_sorted h.2⟩

lemma legalMembers_sorted : ∀ {ms : List (Option String × Value)},
    legalMembers ms → legalMembers (sortedMembers ms)
  | [], h => h
  | _ :: _, h => ⟨Value.legal_sorted h.1, legalMembers_sorted h.2⟩

end

@[simp] lemma Value.sorted_text (s : String) : (Value.text s).sorted = .text s :=
  rfl

@[simp] lemma Value.sorted_nat (n : ℕ) : (Value.nat n).sorted = .nat n :=
  rfl

lemma Value.sorted_array (vs : List Value) : (Value.array vs).sorted = .array (vs.map sorted) :=
  congrArg array (sortedElements_eq_map vs)

lemma Value.sorted_record (members : List (String × Value)) : (Value.record members).sorted =
    .record ((members.map fun m => (m.1, m.2.sorted)).mergeSort fun a b => a.1 ≤ b.1) := by
  have hkeys : ((members.map fun m => (m.1, m.2.sorted)).mergeSort fun a b => a.1 ≤ b.1).map
      (fun m => (some m.1, m.2)) =
      ((members.map fun m => (m.1, m.2.sorted)).map fun m => (some m.1, m.2)).mergeSort
        fun a b => nameLe a.1 b.1 :=
    List.map_mergeSort fun _ _ _ _ => rfl
  rw [record, sorted, sortedMembers_eq_map, record, hkeys, List.map_map, List.map_map]
  rfl

lemma member?_perm {ms ms' : List (String × Value)} (h : ms.Perm ms') (name : String) :
    member? ms name = member? ms' name := by
  have hfilter := h.filter (·.1 = name)
  unfold member?
  generalize ms.filter (·.1 = name) = l at *
  generalize ms'.filter (·.1 = name) = l' at *
  rcases l with _ | ⟨m, _ | ⟨m', l⟩⟩
  · rw [List.nil_perm.mp hfilter]
  · rw [List.singleton_perm.mp hfilter]
  · have hlength := hfilter.length_eq
    rcases l' with _ | ⟨_, _ | ⟨_, _⟩⟩
    · cases hlength
    · cases hlength
    · rfl

lemma Value.fields?_sorted_record (names : List String) (members : List (String × Value)) :
    (Value.record members).sorted.fields? names =
      names.mapM (member? (members.map fun m => (m.1, m.2.sorted))) := by
  rw [sorted_record, fields?_record]
  congr 1
  exact funext (member?_perm (List.mergeSort_perm _ _))

end Sorted

end Telemetry.Json
