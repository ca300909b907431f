import Mathlib
import Telemetry.Proofs.Schema.RoundTrip
import Telemetry.Proofs.Text.Utf8

/-! A directory gives its documents, in the order of their paths, or the first defect among them. -/

namespace Telemetry

lemma nodup_eraseDups {α : Type} [DecidableEq α] (l : List α) : l.eraseDups.Nodup := by
  match l with
  | [] => simp
  | a :: l =>
    rw [List.eraseDups_cons, List.nodup_cons, List.mem_eraseDups]
    exact ⟨by simp, nodup_eraseDups _⟩
termination_by l.length
decreasing_by exact Nat.lt_succ_of_le (List.length_filter_le _ l)

lemma eq_of_ascending {l l' : List String} (h : l.Pairwise (· < ·)) (h' : l'.Pairwise (· < ·))
    (hmem : ∀ a, a ∈ l ↔ a ∈ l') : l = l' := by
  have hperm : l.Perm l' :=
    (List.perm_ext_iff_of_nodup (h.imp fun hab => hab.ne) (h'.imp fun hab => hab.ne)).mpr hmem
  exact hperm.eq_of_pairwise (fun _ _ _ _ hab hba => absurd hab hba.asymm) h h'

namespace Table

variable {κ ν : Type} [DecidableEq κ] {t : Table κ ν} {k : κ}

lemma get?_insert_eq_some_iff (h : t.get? k = none) {k' : κ} {v v' : ν} :
    (t.insert k v).get? k' = some v' ↔ t.get? k' = some v' ∨ k = k' ∧ v = v' := by
  rw [get?_insert]
  split
  next hk =>
    subst hk
    simp [h]
  next hk => simp [hk]

lemma size_insert (h : t.get? k = none) (v : ν) : (t.insert k v).size = t.size + 1 := by
  have hnew : k ∉ t.entries.map Prod.fst := by
    rw [List.mem_map]
    rintro ⟨e, he, rfl⟩
    rw [t.get?_eq_some_iff.mpr he] at h
    cases h
  have hentries : (t.insert k v).entries = t.entries ++ [(k, v)] := put_of_not_mem hnew
  rw [size, hentries, List.length_append]
  rfl

end Table

namespace Files

lemma splitOnAux_slash (s : String) (b i : String.Pos.Raw) (r : List String) :
    s.splitOnAux "/" b i 0 r = s.splitAux (· == '/') b i r := by
  have hget : String.Pos.Raw.get "/" 0 = '/' := rfl
  have hnext : String.Pos.Raw.next "/" 0 = ⟨1⟩ := rfl
  have hlast : String.Pos.Raw.atEnd "/" ⟨1⟩ = true := rfl
  fun_induction String.splitAux s (· == '/') b i r with
  | case1 b i r hend => rw [String.splitOnAux, if_pos hend]
  | case2 b i r hend _ hslash _ ih =>
    have hback : (i.next s).unoffsetBy ⟨1⟩ = i := by
      rw [String.Pos.Raw.next, eq_of_beq hslash]
      exact String.Pos.Raw.ext (Nat.add_sub_cancel _ _)
    rw [String.splitOnAux, if_neg hend, if_pos (by rwa [hget])]
    simp only [hnext, hlast, if_true, hback]
    exact ih
  | case3 b i r hend _ hslash ih =>
    have hback : i.unoffsetBy 0 = i := String.Pos.Raw.ext (Nat.sub_zero _)
    rw [String.splitOnAux, if_neg hend, if_neg (by rwa [hget]), hback]
    exact ih

lemma names_eq (path : String) : names path = (path.toList.splitOn '/').map String.ofList := by
  have hsep : ("/" == "") = false := by decide
  rw [names, String.splitOn, hsep, if_neg Bool.false_ne_true, splitOnAux_slash, List.splitOn,
    ← String.splitToList_of_valid, String.splitToList]

lemma nodup_list? {files : Files} {path : String} {names : List String}
    (h : files.list? path = some names) : names.Nodup := by
  unfold list? at h
  split at h
  next place _ =>
    split at h
    · obtain rfl := Option.some.inj h
      exact nodup_eraseDups _
    · cases h
  · cases h

lemma join_lt_join {directory a b : String} (h : a < b) : join directory a < join directory b := by
  have happend : ∀ start : String, start ++ a < start ++ b := fun start => by
    rw [String.lt_iff_toList_lt, String.toList_append, String.toList_append]
    exact List.append_left_lt h
  unfold join
  split
  · exact happend directory
  · exact happend (directory ++ "/")

end Files

namespace Schema

section Order

variable {directory path : String} {names : List String}

lemma mem_documentPaths : path ∈ documentPaths directory names ↔
    ∃ name ∈ names, Files.extension? name = some "json" ∧ path = Files.join directory name := by
  simp [documentPaths, isDocument, and_assoc, eq_comm]

lemma ascending_documentPaths (directory : String) (h : names.Nodup) :
    (documentPaths directory names).Pairwise (· < ·) := by
  have hsorted : ((names.filter isDocument).mergeSort (· ≤ ·)).Pairwise
      fun a b => decide (a ≤ b) = true :=
    List.pairwise_mergeSort (by simpa using fun a b c => le_trans)
      (by simpa using fun a b => le_total a b) _
  have hnodup : ((names.filter isDocument).mergeSort (· ≤ ·)).Nodup :=
    (List.mergeSort_perm _ _).nodup_iff.mpr (h.filter _)
  refine List.pairwise_map.mpr ((hsorted.and hnodup).imp ?_)
  rintro a b ⟨hle, hne⟩
  exact Files.join_lt_join ((of_decide_eq_true hle).lt_of_ne hne)

end Order

variable (files : Files)

def Gives (path : String) (s : Schema) : Prop :=
  ∃ text, files.readText? path = some text ∧ ofText text = .ok s

def Clash (path path' : String) : Prop :=
  ∃ s s', Gives files path s ∧ Gives files path' s' ∧ s.identity = s'.identity

structure Loadable (paths : List String) : Prop where
  accepted : ∀ path ∈ paths, ∃ s, Gives files path s
  distinct : paths.Pairwise fun path path' => ¬ Clash files path path'

inductive Offends (before : List String) (path : String) : SchemaError → Prop
  | unreadable : files.readText? path = none → Offends before path (.io path)
  | rejected {text : String} {e : SchemaError} : files.readText? path = some text →
      ofText text = .error e → Offends before path e
  | duplicate {s t : Schema} {first : String} : Gives files path s → first ∈ before →
      Gives files first t → t.identity = s.identity →
      (∀ other ∈ before, Clash files other path → other = first) →
      Offends before path (.duplicateSchema s.identity first path)

structure Loaded (before : List String) (origins : Table Identity String) (store : Store) :
    Prop where
  origins : ∀ i path, origins.get? i = some path ↔
    path ∈ before ∧ ∃ s, Gives files path s ∧ s.identity = i
  schemas : ∀ i s, store.get? i = some s ↔ s.identity = i ∧ ∃ path ∈ before, Gives files path s
  size : store.size = before.length

variable {files} {before paths : List String} {path : String} {s : Schema} {e : SchemaError}
variable {origins : Table Identity String} {store : Store}

section Step

lemma Gives.unique {s' : Schema} (h : Gives files path s) (h' : Gives files path s') : s' = s := by
  obtain ⟨text, htext, hs⟩ := h
  obtain ⟨text', htext', hs'⟩ := h'
  obtain rfl := Option.some.inj (htext.symm.trans htext')
  exact Except.ok.inj (hs'.symm.trans hs)

lemma ofFile_eq_ok_iff : ofFile files path = .ok s ↔ Gives files path s := by
  unfold ofFile Gives
  cases files.readText? path <;> simp

lemma Gives.defect? (h : Gives files path s) : s.defect? = none := by
  obtain ⟨text, -, hs⟩ := h
  obtain ⟨-, -, -, hvalid⟩ := (ofText_eq_ok_iff text s).mp hs
  exact (validate_eq_ok_iff_defect? s).mp hvalid

lemma loaded_empty : Loaded files [] ∅ .empty where
  origins _ _ := by simp
  schemas _ _ := by simp [Store.get?, Store.empty]
  size := rfl

lemma Loaded.origins_eq_none (h : Loaded files before origins store) (hs : Gives files path s)
    (hnew : ∀ other ∈ before, ¬ Clash files other path) : origins.get? s.identity = none := by
  by_contra hsome
  obtain ⟨other, hother⟩ := Option.ne_none_iff_exists'.mp hsome
  obtain ⟨hmem, t, ht, hidentity⟩ := (h.origins _ _).mp hother
  exact hnew other hmem ⟨t, s, ht, hs, hidentity⟩

lemma Loaded.get?_eq_none (h : Loaded files before origins store) (hs : Gives files path s)
    (hnew : ∀ other ∈ before, ¬ Clash files other path) : store.get? s.identity = none := by
  by_contra hsome
  obtain ⟨t, ht⟩ := Option.ne_none_iff_exists'.mp hsome
  obtain ⟨hidentity, other, hmem, ht⟩ := (h.schemas _ _).mp ht
  exact hnew other hmem ⟨t, s, ht, hs, hidentity⟩

lemma Loaded.insert (h : Loaded files before origins store) (hs : Gives files path s)
    (hnew : ∀ other ∈ before, ¬ Clash files other path) :
    Loaded files (before ++ [path]) (origins.insert s.identity path)
      ⟨store.schemas.insert s.identity s⟩ where
  origins i path' := by
    rw [Table.get?_insert_eq_some_iff (h.origins_eq_none hs hnew), h.origins, List.mem_append,
      List.mem_singleton]
    constructor
    · rintro (⟨hmem, ht⟩ | ⟨rfl, rfl⟩)
      · exact ⟨.inl hmem, ht⟩
      · exact ⟨.inr rfl, s, hs, rfl⟩
    · rintro ⟨hmem | rfl, t, ht, hidentity⟩
      · exact .inl ⟨hmem, t, ht, hidentity⟩
      · exact .inr ⟨hs.unique ht ▸ hidentity, rfl⟩
  schemas i t := by
    have hold := h.schemas i t
    rw [Store.get?] at hold
    rw [Store.get?, Table.get?_insert_eq_some_iff (h.get?_eq_none hs hnew), hold]
    simp only [List.mem_append, List.mem_singleton]
    constructor
    · rintro (⟨hidentity, other, hmem, ht⟩ | ⟨rfl, rfl⟩)
      · exact ⟨hidentity, other, .inl hmem, ht⟩
      · exact ⟨rfl, path, .inr rfl, hs⟩
    · rintro ⟨hidentity, other, hmem | rfl, ht⟩
      · exact .inl ⟨hidentity, other, hmem, ht⟩
      · exact .inr ⟨hs.unique ht ▸ hidentity, (hs.unique ht).symm⟩
  size := by
    rw [Store.size, Table.size_insert (h.get?_eq_none hs hnew), List.length_append]
    exact congrArg (· + 1) h.size

lemma Loaded.loadPaths_cons (h : Loaded files before origins store) (hs : Gives files path s)
    (hnew : ∀ other ∈ before, ¬ Clash files other path) (rest : List String) :
    loadPaths files origins store (path :: rest) =
      loadPaths files (origins.insert s.identity path) ⟨store.schemas.insert s.identity s⟩
        rest := by
  rw [loadPaths, ofFile_eq_ok_iff.mpr hs]
  simp only [h.origins_eq_none hs hnew, Store.save, hs.defect?]

lemma Loaded.loadPaths_offending (h : Loaded files before origins store)
    (he : Offends files before path e) (rest : List String) :
    loadPaths files origins store (path :: rest) = .error e := by
  cases he with
  | unreadable hnone => simp only [loadPaths, ofFile, hnone]
  | rejected htext he => simp only [loadPaths, ofFile, htext, he]
  | @duplicate s t first hs hfirst ht hidentity hunique =>
    have horigin : origins.get? s.identity = some first :=
      (h.origins _ _).mpr ⟨hfirst, t, ht, hidentity⟩
    simp only [loadPaths, ofFile_eq_ok_iff.mpr hs, horigin]

end Step

section Run

lemma Loadable.concat_iff : Loadable files (before ++ [path]) ↔
    Loadable files before ∧ (∃ s, Gives files path s) ∧
      ∀ other ∈ before, ¬ Clash files other path := by
  constructor
  · rintro ⟨haccepted, hdistinct⟩
    obtain ⟨hbefore, -, hpath⟩ := List.pairwise_append.mp hdistinct
    exact ⟨⟨fun other hmem => haccepted other (List.mem_append_left _ hmem), hbefore⟩,
      haccepted path (by simp), fun other hmem => hpath other hmem path (by simp)⟩
  · rintro ⟨⟨haccepted, hdistinct⟩, hs, hnew⟩
    refine ⟨fun other hmem => ?_, List.pairwise_append.mpr ⟨hdistinct, by simp, by simpa⟩⟩
    rcases List.mem_append.mp hmem with hmem | hmem
    · exact haccepted other hmem
    · exact List.mem_singleton.mp hmem ▸ hs

lemma Loadable.loaded (h : Loadable files paths) : ∃ origins store,
    Loaded files paths origins store ∧
      ∀ rest, loadPaths files ∅ .empty (paths ++ rest) = loadPaths files origins store rest := by
  induction paths using List.reverseRecOn with
  | nil => exact ⟨∅, .empty, loaded_empty, fun _ => rfl⟩
  | append_singleton before path ih =>
    -- The run over the paths before this one ends in the state that the loop is in here.
    obtain ⟨hbefore, ⟨s, hs⟩, hnew⟩ := Loadable.concat_iff.mp h
    obtain ⟨origins, store, hloaded, hrun⟩ := ih hbefore
    refine ⟨_, _, hloaded.insert hs hnew, fun rest => ?_⟩
    rw [List.append_assoc, List.singleton_append, hrun, hloaded.loadPaths_cons hs hnew]

lemma Clash.symm {path' : String} (h : Clash files path path') : Clash files path' path := by
  obtain ⟨s, s', hs, hs', hidentity⟩ := h
  exact ⟨s', s, hs', hs, hidentity.symm⟩

lemma Clash.trans {path' path'' : String} (h : Clash files path path')
    (h' : Clash files path' path'') : Clash files path path'' := by
  obtain ⟨s, s', hs, hs', hidentity⟩ := h
  obtain ⟨t, t', ht, ht', hidentity'⟩ := h'
  obtain rfl := ht.unique hs'
  exact ⟨s, t', hs, ht', hidentity.trans hidentity'⟩

lemma Loadable.eq_of_clash (h : Loadable files before) {first other : String}
    (hfirst : first ∈ before) (hother : other ∈ before) (hclash : Clash files other first) :
    other = first := by
  have hsymm : Std.Symm fun path path' => ¬ Clash files path path' :=
    ⟨fun _ _ hnot hclash => hnot hclash.symm⟩
  by_contra hne
  exact h.distinct.forall hother hfirst hne hclash

lemma Loadable.concat_or_offends (h : Loadable files before) (path : String) :
    Loadable files (before ++ [path]) ∨ ∃ e, Offends files before path e := by
  cases htext : files.readText? path with
  | none => exact .inr ⟨_, .unreadable htext⟩
  | some text =>
    cases hs : ofText text with
    | error e => exact .inr ⟨e, .rejected htext hs⟩
    | ok s =>
      by_cases hnew : ∀ other ∈ before, ¬ Clash files other path
      · exact .inl (Loadable.concat_iff.mpr ⟨h, ⟨s, text, htext, hs⟩, hnew⟩)
      · push Not at hnew
        obtain ⟨first, hfirst, hclash⟩ := hnew
        obtain ⟨t, s', ht, hs', hidentity⟩ := hclash
        have hunique : ∀ other ∈ before, Clash files other path → other = first :=
          fun other hother hother' => h.eq_of_clash hfirst hother
            (hother'.trans ⟨s', t, hs', ht, hidentity.symm⟩)
        exact .inr ⟨_, .duplicate hs' hfirst ht hidentity hunique⟩

lemma loadable_or_offends (files : Files) (paths : List String) : Loadable files paths ∨
    ∃ before path after e, paths = before ++ path :: after ∧ Loadable files before ∧
      Offends files before path e := by
  induction paths using List.reverseRecOn with
  | nil => exact .inl ⟨by simp, by simp⟩
  | append_singleton paths last ih =>
    rcases ih with h | ⟨before, path, after, e, rfl, hbefore, he⟩
    · rcases h.concat_or_offends last with hlast | ⟨e, he⟩
      · exact .inl hlast
      · exact .inr ⟨paths, last, [], e, rfl, h, he⟩
    · exact .inr ⟨before, path, after ++ [last], e, by simp, hbefore, he⟩

lemma loadPaths_offending {after : List String} (h : Loadable files before)
    (he : Offends files before path e) :
    loadPaths files ∅ .empty (before ++ path :: after) = .error e := by
  obtain ⟨origins, store, hloaded, hrun⟩ := h.loaded
  rw [hrun, hloaded.loadPaths_offending he]

lemma loadPaths_eq_error_iff : loadPaths files ∅ .empty paths = .error e ↔
    ∃ before path after, paths = before ++ path :: after ∧ Loadable files before ∧
      Offends files before path e := by
  constructor
  · intro h
    rcases loadable_or_offends files paths with hall | ⟨before, path, after, e', rfl, hbefore, he⟩
    · obtain ⟨origins, store, -, hrun⟩ := hall.loaded
      have hok := hrun []
      rw [List.append_nil, h] at hok
      cases hok
    · rw [loadPaths_offending hbefore he] at h
      obtain rfl := Except.error.inj h
      exact ⟨before, path, after, rfl, hbefore, he⟩
  · rintro ⟨before, path, after, rfl, hbefore, he⟩
    exact loadPaths_offending hbefore he

lemma loadPaths_eq_ok (h : loadPaths files ∅ .empty paths = .ok store) :
    Loadable files paths ∧ ∃ origins, Loaded files paths origins store := by
  rcases loadable_or_offends files paths with hall | ⟨before, path, after, e, rfl, hbefore, he⟩
  · obtain ⟨origins, store', hloaded, hrun⟩ := hall.loaded
    have hok := hrun []
    rw [List.append_nil, h] at hok
    obtain rfl := Except.ok.inj hok
    exact ⟨hall, origins, hloaded⟩
  · rw [loadPaths_offending hbefore he] at h
    cases h

lemma loadPaths_congr {other : Files} (h : ∀ p ∈ paths, other.readText? p = files.readText? p) :
    loadPaths other origins store paths = loadPaths files origins store paths := by
  induction paths generalizing origins store with
  | nil => rfl
  | cons path paths ih =>
    rw [List.forall_mem_cons] at h
    simp only [loadPaths, ofFile, h.1, ih h.2]

end Run

/-- A directory is loaded if and only if each of its documents is accepted and no two are for the
same version of an application, and then the store holds one schema for each of them. If not, the
first document in the order of the paths that is at fault tells the error. Neither the order in
which the directory is listed nor what else is in it makes a difference. -/
theorem ofDirectory_loads (files : Files) (directory : String) :
    (files.list? directory = none → Store.ofDirectory files directory = .error (.io directory)) ∧
    ∀ names, files.list? directory = some names → ∃ paths : List String,
      paths.Pairwise (· < ·) ∧
      (∀ path, path ∈ paths ↔ ∃ name ∈ names, Files.extension? name = some "json" ∧
        path = Files.join directory name) ∧
      ((∃ store, Store.ofDirectory files directory = .ok store) ↔ Loadable files paths) ∧
      (∀ store, Store.ofDirectory files directory = .ok store → store.size = paths.length ∧
        ∀ i s, store.get? i = some s ↔ s.identity = i ∧ ∃ path ∈ paths, Gives files path s) ∧
      (∀ e, Store.ofDirectory files directory = .error e ↔ ∃ before path after,
        paths = before ++ path :: after ∧ Loadable files before ∧ Offends files before path e) ∧
      ∀ (other : Files) (names' : List String), other.list? directory = some names' →
        (∀ name, Files.extension? name = some "json" → (name ∈ names' ↔ name ∈ names)) →
        (∀ path ∈ paths, other.readText? path = files.readText? path) →
        Store.ofDirectory other directory = Store.ofDirectory files directory := by
  refine ⟨fun hnone => by rw [Store.ofDirectory, hnone], fun names hnames => ?_⟩
  have hascending := ascending_documentPaths directory (Files.nodup_list? hnames)
  have hload : Store.ofDirectory files directory =
      loadPaths files ∅ .empty (documentPaths directory names) := by
    rw [Store.ofDirectory, hnames]
  refine ⟨documentPaths directory names, hascending, fun _ => mem_documentPaths, ?_, ?_, ?_, ?_⟩
  · rw [hload]
    constructor
    · exact fun ⟨store, hstore⟩ => (loadPaths_eq_ok hstore).1
    · intro hall
      obtain ⟨origins, store, -, hrun⟩ := hall.loaded
      refine ⟨store, ?_⟩
      rw [← (documentPaths directory names).append_nil, hrun, loadPaths]
  · intro store hstore
    obtain ⟨origins, hloaded⟩ := (loadPaths_eq_ok (hload.symm.trans hstore)).2
    exact ⟨hloaded.size, hloaded.schemas⟩
  · intro e
    rw [hload, loadPaths_eq_error_iff]
  · intro other names' hnames' hsame hread
    have hpaths : documentPaths directory names' = documentPaths directory names := by
      refine eq_of_ascending (ascending_documentPaths _ (Files.nodup_list? hnames')) hascending ?_
      intro path
      rw [mem_documentPaths, mem_documentPaths]
      constructor
      · rintro ⟨name, hmem, hext, rfl⟩
        exact ⟨name, (hsame name hext).mp hmem, hext, rfl⟩
      · rintro ⟨name, hmem, hext, rfl⟩
        exact ⟨name, (hsame name hext).mpr hmem, hext, rfl⟩
    rw [hload, Store.ofDirectory, hnames', ← loadPaths_congr hread, ← hpaths]

section Shelves

def shelves (bytes : List UInt8) : Files where
  here := []
  entries := [(["1", "README"], .file []), (["1", "a.json"], .file bytes),
    (["2", "b.json"], .file bytes), (["2", "a.json"], .file bytes)]

def pumpFiles : Files := shelves (Text.Utf8.encode pumpText)

variable (bytes : List UInt8)

lemma list?_one : (shelves bytes).list? "1" = some ["README", "a.json"] := by cbv

lemma list?_two : (shelves bytes).list? "2" = some ["b.json", "a.json"] := by cbv

lemma extension?_json : Files.extension? "a.json" = some "json" ∧
    Files.extension? "b.json" = some "json" ∧ Files.extension? "README" = none := by cbv

lemma join_shelves : Files.join "1" "a.json" = "1/a.json" ∧
    Files.join "2" "a.json" = "2/a.json" ∧
    Files.join "2" "b.json" = "2/b.json" := by cbv

lemma gives_pumpFiles {directory name : String}
    (hnames : Files.names path = [directory, name]) (habsolute : Files.isAbsolute path = false)
    (hplace : pumpFiles.walk [] [directory, name] = some [directory, name])
    (hnode : pumpFiles.nodeAt? [directory, name] = some (.file (Text.Utf8.encode pumpText))) :
    Gives pumpFiles path pumpDocument := by
  have hpath : path ≠ "" := by
    rintro rfl
    rw [Files.names_eq] at hnames
    cases hnames
  have hread : pumpFiles.read? path = some (Text.Utf8.encode pumpText) := by
    have hhere : pumpFiles.here = [] := rfl
    rw [Files.read?, Files.node?, Files.place?, if_neg hpath, habsolute, hnames, hhere,
      if_neg Bool.false_ne_true, hplace, Option.bind_some, hnode]
  refine ⟨pumpText, ?_, by cbv⟩
  rw [Files.readText?, hread, Option.bind_some, Text.Utf8.decode_encode]
  rfl

theorem ofDirectory_loads_pump :
    (∃ store, Store.ofDirectory pumpFiles "1" = .ok store ∧ store.size = 1 ∧
      store.get? ⟨"pump", "1"⟩ = some pumpDocument) ∧
    Store.ofDirectory pumpFiles "2" =
      .error (.duplicateSchema ⟨"pump", "1"⟩ "2/a.json" "2/b.json") := by
  have honce : Gives pumpFiles "1/a.json" pumpDocument :=
    gives_pumpFiles (Files.names_eq _) (by cbv) rfl rfl
  have hfirst : Gives pumpFiles "2/a.json" pumpDocument :=
    gives_pumpFiles (Files.names_eq _) (by cbv) rfl rfl
  have hsecond : Gives pumpFiles "2/b.json" pumpDocument :=
    gives_pumpFiles (Files.names_eq _) (by cbv) rfl rfl
  obtain ⟨paths, hsorted, hpaths, hok, hstore, -, -⟩ :=
    (ofDirectory_loads pumpFiles "1").2 _ (list?_one _)
  obtain ⟨paths', hsorted', hpaths', -, -, herror, -⟩ :=
    (ofDirectory_loads pumpFiles "2").2 _ (list?_two _)
  have hone : paths = ["1/a.json"] := by
    refine eq_of_ascending hsorted (by simp) fun path => ?_
    simp [hpaths, extension?_json, join_shelves]
  have htwo : paths' = ["2/a.json", "2/b.json"] := by
    refine eq_of_ascending hsorted' (by decide) fun path => ?_
    simp [hpaths', extension?_json, join_shelves, or_comm]
  subst hone htwo
  constructor
  · obtain ⟨store, h⟩ := hok.mpr ⟨by simpa using ⟨_, honce⟩, by simp⟩
    obtain ⟨hsize, hget⟩ := hstore store h
    exact ⟨store, h, hsize, (hget _ _).mpr ⟨rfl, _, by simp, honce⟩⟩
  · refine (herror _).mpr ⟨["2/a.json"], "2/b.json", [], rfl,
      ⟨by simpa using ⟨_, hfirst⟩, by simp⟩, ?_⟩
    exact .duplicate hsecond (by simp) hfirst rfl fun other hother _ => by simpa using hother

end Shelves

end Schema

end Telemetry
