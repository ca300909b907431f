import Mathlib
import Telemetry.Config.Document
import Telemetry.Proofs.Text.Utf8

/-! One file is chosen to take the settings from, and what stands in the others makes no
difference. Whatever settings are taken are valid. -/

namespace Telemetry

def Node.rewrite (contents : List UInt8 → List UInt8) : Node → Node
  | file bytes => .file (contents bytes)
  | directory => .directory
  | closed kind => .closed kind

lemma Node.isDirectory_rewrite (contents : List UInt8 → List UInt8) (n : Node) :
    (n.rewrite contents).isDirectory = n.isDirectory := by
  rcases n with _ | _ | (_ | _ | _) <;> rfl

namespace Files

def rewrite (files : Files) (contents : List String → List UInt8 → List UInt8) : Files where
  here := files.here
  entries := files.entries.map fun e => (e.1, e.2.rewrite (contents e.1))

variable (files : Files) (contents : List String → List UInt8 → List UInt8)

lemma nodeAt?_rewrite (place : List String) :
    (files.rewrite contents).nodeAt? place =
      (files.nodeAt? place).map (Node.rewrite (contents place)) := by
  have hfind : (files.rewrite contents).entries.find? (·.1 = place) =
      (files.entries.find? (·.1 = place)).map fun e => (e.1, e.2.rewrite (contents e.1)) :=
    List.find?_map
  have hany : (files.rewrite contents).entries.any (fun e => place.isPrefixOf e.1) =
      files.entries.any fun e => place.isPrefixOf e.1 :=
    List.any_map
  rw [nodeAt?, nodeAt?, hfind, hany]
  cases hentry : files.entries.find? (·.1 = place) with
  | some e =>
    have he : e.1 = place := by simpa using List.find?_some hentry
    simp [he]
  | none =>
    simp only [Option.map_none]
    split <;> rfl

lemma isSome_nodeAt?_rewrite (place : List String) :
    ((files.rewrite contents).nodeAt? place).isSome = (files.nodeAt? place).isSome := by
  rw [nodeAt?_rewrite, Option.isSome_map]

lemma any_isDirectory_rewrite (place : List String) :
    ((files.rewrite contents).nodeAt? place).any Node.isDirectory =
      (files.nodeAt? place).any Node.isDirectory := by
  rw [nodeAt?_rewrite]
  cases files.nodeAt? place with
  | none => rfl
  | some n => exact n.isDirectory_rewrite _

lemma walk_rewrite (place names : List String) :
    (files.rewrite contents).walk place names = files.walk place names := by
  induction names generalizing place with
  | nil => rfl
  | cons name names ih =>
    simp only [walk, ih, any_isDirectory_rewrite, isSome_nodeAt?_rewrite]

lemma place?_rewrite (path : String) :
    (files.rewrite contents).place? path = files.place? path := by
  simp only [place?, walk_rewrite]
  rfl

lemma exists?_rewrite (path : String) :
    (files.rewrite contents).exists? path = files.exists? path := by
  rw [exists?, exists?, node?, node?, place?_rewrite]
  cases files.place? path with
  | none => rfl
  | some place =>
    rw [Option.bind_some, Option.bind_some, nodeAt?_rewrite]
    rcases files.nodeAt? place with _ | (_ | _ | _) <;> rfl

lemma isDirectory_rewrite (path : String) :
    (files.rewrite contents).isDirectory path = files.isDirectory path := by
  rw [isDirectory, isDirectory, node?, node?, place?_rewrite]
  cases files.place? path with
  | none => rfl
  | some place => exact files.any_isDirectory_rewrite contents place

variable {files contents} in
lemma readText?_rewrite {path : String}
    (hkept : ∀ place, files.place? path = some place → ∀ bytes, contents place bytes = bytes) :
    (files.rewrite contents).readText? path = files.readText? path := by
  have hnode : (files.rewrite contents).node? path = files.node? path := by
    rw [node?, node?, place?_rewrite]
    cases hplace : files.place? path with
    | none => rfl
    | some place =>
      rw [Option.bind_some, Option.bind_some, nodeAt?_rewrite]
      rcases files.nodeAt? place with _ | (bytes | _ | _)
      · rfl
      · simp [Node.rewrite, hkept place hplace]
      · rfl
      · rfl
  rw [readText?, readText?, read?, read?, hnode]

variable {files} in
lemma exists?_of_readText? {path text : String} (h : files.readText? path = some text) :
    files.exists? path = true := by
  obtain ⟨bytes, hbytes, -⟩ := Option.bind_eq_some_iff.mp h
  rw [read?] at hbytes
  rw [exists?]
  split at hbytes
  next hnode => simp only [hnode]
  next => cases hbytes

end Files

namespace Config

structure Valid (files : Files) (c : Config) : Prop where
  maxBodyBytes_pos : 0 < c.ingest.maxBodyBytes
  topic_not_blank : Text.isBlankText c.ingest.topic = false
  ttl_pos : 0 < c.schemaCache.ttl.nanos
  directory : ∀ path, c.schemaCache.directory = some path → files.exists? path = true →
    files.isDirectory path = true

def spelled? (text : String) : Option Config :=
  (Toml.parse text).bind fun members => ofToml? (.table .header members)

/-- The environment names no file: its variable is not set, blank, or no text at all. -/
def Unnamed (environment : Option (List UInt8)) : Prop :=
  ∀ value text, environment = some value → Text.Utf8.decode value = .ok text →
    Text.isBlankText text = true

inductive Chosen (files : Files) : Option (List UInt8) → List String → String → Prop
  | environment {value : List UInt8} {path : String} (candidates : List String) :
      Text.Utf8.decode value = .ok path → Text.isBlankText path = false →
      Chosen files (some value) candidates path
  | candidate {environment : Option (List UInt8)} {before after : List String} {path : String} :
      Unnamed environment →
      (∀ earlier ∈ before, files.exists? earlier = false) → files.exists? path = true →
      Chosen files environment (before ++ path :: after) path

inductive Told (files : Files) (path : String) : Except ConfigError Config → Prop
  | unreadable : files.readText? path = none → Told files path (.error (.unreadable path))
  | malformed {text : String} : files.readText? path = some text → spelled? text = none →
      Told files path (.error (.inFile path .malformed))
  | invalid {text : String} {c : Config} {e : ConfigError} : files.readText? path = some text →
      spelled? text = some c → c.defect? files = some e →
      Told files path (.error (.inFile path e))
  | taken {text : String} {c : Config} : files.readText? path = some text →
      spelled? text = some c → c.Valid files → Told files path (.ok c)

variable {files : Files} {environment : Option (List UInt8)} {candidates : List String}
  {path : String} {c : Config} {loaded : Loaded}

lemma ite_some_eq_none_iff {α : Type} {p : Prop} [Decidable p] {e : α} {rest : Option α} :
    (if p then some e else rest) = none ↔ ¬ p ∧ rest = none := by
  by_cases h : p <;> simp [h]

lemma defect?_eq_none_iff : c.defect? files = none ↔ c.Valid files := by
  have hvalid : c.Valid files ↔ c.ingest.maxBodyBytes ≠ 0 ∧
      Text.isBlankText c.ingest.topic = false ∧ c.schemaCache.ttl.nanos ≠ 0 ∧
      ∀ path, c.schemaCache.directory = some path → files.exists? path = true →
        files.isDirectory path = true :=
    ⟨fun ⟨hbody, htopic, httl, hdirectory⟩ =>
      ⟨Nat.ne_of_gt hbody, htopic, Nat.ne_of_gt httl, hdirectory⟩,
      fun ⟨hbody, htopic, httl, hdirectory⟩ =>
        ⟨Nat.pos_of_ne_zero hbody, htopic, Nat.pos_of_ne_zero httl, hdirectory⟩⟩
  rw [hvalid, defect?]
  cases c.schemaCache.directory with
  | none => simp [ite_some_eq_none_iff]
  | some path => simp [ite_some_eq_none_iff]

section Answer

lemma ofText_eq (files : Files) (text : String) : ofText files text =
    match spelled? text with
    | none => .error .malformed
    | some c =>
      match c.defect? files with
      | some e => .error e
      | none => .ok c :=
  rfl

lemma valid_of_ofText {text : String} (h : ofText files text = .ok c) : c.Valid files := by
  rw [ofText_eq] at h
  split at h
  next => cases h
  next =>
    split at h
    next => cases h
    next hdefect => exact Except.ok.inj h ▸ defect?_eq_none_iff.mp hdefect

lemma told_ofFile (files : Files) (path : String) : Told files path (ofFile files path) := by
  rw [ofFile]
  cases htext : files.readText? path with
  | none => exact .unreadable htext
  | some text =>
    simp only [ofText_eq]
    cases hc : spelled? text with
    | none => exact .malformed htext hc
    | some c =>
      simp only
      cases hdefect : c.defect? files with
      | some e => exact .invalid htext hc hdefect
      | none => exact .taken htext hc (defect?_eq_none_iff.mp hdefect)

lemma Told.ofFile_eq {answer : Except ConfigError Config} (h : Told files path answer) :
    ofFile files path = answer := by
  rw [ofFile]
  cases h with
  | unreadable htext => simp only [htext]
  | malformed htext hc =>
    simp only [htext, ofText_eq, hc]
    rfl
  | invalid htext hc hdefect =>
    simp only [htext, ofText_eq, hc, hdefect]
    rfl
  | taken htext hc hvalid =>
    simp only [htext, ofText_eq, hc, defect?_eq_none_iff.mpr hvalid]
    rfl

lemma ofFile_eq_ok_iff : ofFile files path = .ok c ↔
    ∃ text, files.readText? path = some text ∧ ofText files text = .ok c := by
  rw [ofFile]
  cases files.readText? path with
  | none => simp
  | some text =>
    simp only [Option.some.injEq, exists_eq_left']
    cases ofText files text <;> simp [Except.mapError]

lemma valid_of_ofFile (h : ofFile files path = .ok c) : c.Valid files := by
  obtain ⟨text, -, htext⟩ := ofFile_eq_ok_iff.mp h
  exact valid_of_ofText htext

end Answer

section Choice

lemma eq_ok_of_toOption {e a : Type} {x : Except e a} {y : a} (h : x.toOption = some y) :
    x = .ok y := by
  cases x <;> simp_all [Except.toOption]

lemma unnamed_none : Unnamed none := by
  intro value text hvalue
  cases hvalue

lemma choose?_of_unnamed (h : Unnamed environment) :
    choose? files environment candidates = candidates.find? files.exists? := by
  unfold choose?
  split
  next path hpath =>
    obtain ⟨value, rfl, hvalue⟩ := Option.bind_eq_some_iff.mp hpath
    rw [if_pos (h value path rfl (eq_ok_of_toOption hvalue))]
  next => rfl

lemma choose?_of_chosen (h : Chosen files environment candidates path) :
    choose? files environment candidates = some path := by
  cases h with
  | environment _ hpath hblank => simp [choose?, hpath, Except.toOption, hblank]
  | @candidate _ before after _ hunnamed hbefore hpath =>
    rw [choose?_of_unnamed hunnamed, List.find?_append,
      List.find?_eq_none.mpr (by simpa using hbefore)]
    simp [hpath]

lemma choose?_of_none_exists (hunnamed : Unnamed environment)
    (hnone : ∀ path ∈ candidates, files.exists? path = false) :
    choose? files environment candidates = none := by
  rw [choose?_of_unnamed hunnamed]
  exact List.find?_eq_none.mpr (by simpa using hnone)

lemma chosen_of_choose? (h : choose? files environment candidates = some path) :
    Chosen files environment candidates path := by
  by_cases hunnamed : Unnamed environment
  · rw [choose?_of_unnamed hunnamed] at h
    obtain ⟨hpath, before, after, rfl, hbefore⟩ := List.find?_eq_some_iff_append.mp h
    exact .candidate hunnamed (by simpa using hbefore) hpath
  · simp only [Unnamed, not_forall, Bool.not_eq_true] at hunnamed
    obtain ⟨value, text, rfl, htext, hblank⟩ := hunnamed
    obtain rfl : text = path := by simpa [choose?, htext, Except.toOption, hblank] using h
    exact .environment candidates htext hblank

lemma load?_of_choose? (h : choose? files environment candidates = some path) :
    load? files environment candidates = (ofFile files path).map fun c => some ⟨c, path⟩ := by
  simp only [load?, h]
  cases ofFile files path <;> rfl

lemma load?_of_choose?_eq_none (h : choose? files environment candidates = none) :
    load? files environment candidates = .ok none := by
  rw [load?, h]

lemma load?_eq_ok_some_iff : load? files environment candidates = .ok (some loaded) ↔
    choose? files environment candidates = some loaded.source ∧
      ofFile files loaded.source = .ok loaded.config := by
  cases hpath : choose? files environment candidates with
  | none => simp [load?_of_choose?_eq_none hpath]
  | some path =>
    obtain ⟨config, source⟩ := loaded
    rw [load?_of_choose? hpath, Option.some.injEq]
    cases hc : ofFile files path with
    | error e =>
      simp only [Except.map, reduceCtorEq, false_iff]
      rintro ⟨rfl, hconfig⟩
      cases hc.symm.trans hconfig
    | ok c =>
      simp only [Except.map, Except.ok.injEq, Option.some.injEq, Loaded.mk.injEq]
      constructor
      · rintro ⟨rfl, rfl⟩
        exact ⟨rfl, hc⟩
      · rintro ⟨rfl, hconfig⟩
        exact ⟨Except.ok.inj (hc.symm.trans hconfig), rfl⟩

lemma valid_of_load? (h : load? files environment candidates = .ok (some loaded)) :
    loaded.config.Valid files :=
  valid_of_ofFile (load?_eq_ok_some_iff.mp h).2

lemma load_eq_ok_iff : load files environment candidates = .ok loaded ↔
    load? files environment candidates = .ok (some loaded) := by
  rw [load]
  split
  next h => simp [h]
  next h => simp [h]
  next h => simp [h]

end Choice

section Contents

variable {contents : List String → List UInt8 → List UInt8}

lemma defect?_rewrite (c : Config) : c.defect? (files.rewrite contents) = c.defect? files := by
  simp only [defect?, Files.exists?_rewrite, Files.isDirectory_rewrite]

lemma ofFile_rewrite
    (hkept : ∀ place, files.place? path = some place → ∀ bytes, contents place bytes = bytes) :
    ofFile (files.rewrite contents) path = ofFile files path := by
  simp only [ofFile, ofText, Files.readText?_rewrite hkept, defect?_rewrite]

lemma choose?_rewrite (files : Files) (contents : List String → List UInt8 → List UInt8) :
    choose? (files.rewrite contents) environment candidates =
      choose? files environment candidates := by
  have hexists : (files.rewrite contents).exists? = files.exists? :=
    funext (files.exists?_rewrite contents)
  simp only [choose?, hexists]

lemma load?_rewrite (hkept : ∀ path place, Chosen files environment candidates path →
    files.place? path = some place → ∀ bytes, contents place bytes = bytes) :
    load? (files.rewrite contents) environment candidates = load? files environment candidates := by
  have hchoice : choose? (files.rewrite contents) environment candidates =
      choose? files environment candidates := choose?_rewrite files contents
  cases hpath : choose? files environment candidates with
  | none =>
    rw [load?_of_choose?_eq_none hpath, load?_of_choose?_eq_none (hchoice.trans hpath)]
  | some path =>
    rw [load?_of_choose? hpath, load?_of_choose? (hchoice.trans hpath),
      ofFile_rewrite fun place => hkept path place (chosen_of_choose? hpath)]

end Contents

/-- The settings come from the file that the environment names, else from the first candidate that
exists, and what that one file gives is final, be it an error. What is in the other files makes no
difference. Where settings are required, only the lack of a file is an error in addition. All
settings that are given are valid. -/
theorem load_from_one_file (files : Files) (environment : Option (List UInt8))
    (candidates : List String) :
    (∀ path, Chosen files environment candidates path →
      (∃ answer, Told files path answer) ∧ ∀ answer, Told files path answer →
        load? files environment candidates = answer.map fun c => some ⟨c, path⟩) ∧
    (Unnamed environment → (∀ path ∈ candidates, files.exists? path = false) →
      load? files environment candidates = .ok none) ∧
    (∀ contents : List String → List UInt8 → List UInt8,
      (∀ path place, Chosen files environment candidates path → files.place? path = some place →
        ∀ bytes, contents place bytes = bytes) →
      load? (files.rewrite contents) environment candidates =
        load? files environment candidates) ∧
    (∀ loaded, load files environment candidates = .ok loaded ↔
      load? files environment candidates = .ok (some loaded)) ∧
    (∀ e, load files environment candidates = .error e ↔
      load? files environment candidates = .error e ∨
        load? files environment candidates = .ok none ∧ e = .notFound candidates) ∧
    (∀ text c, ofText files text = .ok c → c.Valid files) ∧
    (∀ path c, ofFile files path = .ok c → c.Valid files) ∧
    (∀ loaded, load? files environment candidates = .ok (some loaded) →
      loaded.config.Valid files) ∧
    ∀ loaded, load files environment candidates = .ok loaded → loaded.config.Valid files := by
  refine ⟨fun path hpath => ?_, fun hunnamed hnone => ?_, fun contents => load?_rewrite,
    fun _ => load_eq_ok_iff, fun e => ?_, fun _ _ => valid_of_ofText, fun _ _ => valid_of_ofFile,
    fun _ => valid_of_load?, fun _ h => valid_of_load? (load_eq_ok_iff.mp h)⟩
  · refine ⟨⟨_, told_ofFile files path⟩, fun answer htold => ?_⟩
    rw [load?_of_choose? (choose?_of_chosen hpath), htold.ofFile_eq]
  · exact load?_of_choose?_eq_none (choose?_of_none_exists hunnamed hnone)
  · rw [load]
    split
    next h => simp [h]
    next h => simp [h, eq_comm]
    next h => simp [h]

def benchFiles : Files where
  here := []
  entries := [(["b"], .file (Text.Utf8.encode "[ingest")),
    (["c"], .file (Text.Utf8.encode "[ingest]\nmax_body_bytes = 64"))]

def benchConfig : Config := { Config.default with ingest := ⟨64, "telemetry-events"⟩ }

lemma readText?_bench_b : benchFiles.readText? "b" = some "[ingest" := by
  cbv

lemma told_bench_b : Told benchFiles "b" (.error (.inFile "b" .malformed)) :=
  .malformed readText?_bench_b (by cbv)

lemma readText?_bench_c : benchFiles.readText? "c" = some "[ingest]\nmax_body_bytes = 64" := by
  cbv

lemma told_bench_c : Told benchFiles "c" (.ok benchConfig) := by
  have hparse : Toml.parse "[ingest]\nmax_body_bytes = 64" =
      some [("ingest", .table .header [("max_body_bytes", .integer 64)])] := by cbv
  refine .taken readText?_bench_c ?_
    ⟨by decide, by cbv, by decide, fun _ hdirectory => by cases hdirectory⟩
  rw [spelled?, hparse]
  rfl

theorem load_from_one_file_bench :
    load? benchFiles none ["a", "b", "c"] = .error (.inFile "b" .malformed) ∧
    load? (benchFiles.rewrite fun place bytes => if place = ["b"] then bytes else []) none
      ["a", "b", "c"] = .error (.inFile "b" .malformed) ∧
    load benchFiles (some (Text.Utf8.encode "c")) ["a", "b"] = .ok ⟨benchConfig, "c"⟩ ∧
    benchConfig.Valid benchFiles := by
  have ha : benchFiles.exists? "a" = false := by cbv
  have hfirst : Chosen benchFiles none ["a", "b", "c"] "b" :=
    @Chosen.candidate _ _ ["a"] ["c"] _ unnamed_none (by simpa using ha)
      (Files.exists?_of_readText? readText?_bench_b)
  have hnamed : Chosen benchFiles (some (Text.Utf8.encode "c")) ["a", "b"] "c" :=
    .environment _ (Text.Utf8.decode_encode "c") (by cbv)
  obtain ⟨hload, -, hcontents, -⟩ := load_from_one_file benchFiles none ["a", "b", "c"]
  obtain ⟨hoverride, -, -, hrequired, -, -, -, hvalid, -⟩ :=
    load_from_one_file benchFiles (some (Text.Utf8.encode "c")) ["a", "b"]
  have herror := (hload "b" hfirst).2 _ told_bench_b
  have hloaded := (hoverride "c" hnamed).2 _ told_bench_c
  refine ⟨herror, (hcontents _ ?_).trans herror, (hrequired _).mpr hloaded, hvalid _ hloaded⟩
  intro path place hpath hplace bytes
  obtain rfl : "b" = path :=
    Option.some.inj ((choose?_of_chosen hfirst).symm.trans (choose?_of_chosen hpath))
  have hb : benchFiles.place? "b" = some ["b"] := by cbv
  exact if_pos (Option.some.inj (hplace.symm.trans hb))

/-- A file is named, but not in Unicode, and the first candidate is taken instead. -/
theorem load_past_unreadable_name :
    Text.Utf8.decode [0xFF] = .error (.invalid 0 1) ∧
    load? benchFiles (some [0xFF]) ["c", "b"] = .ok (some ⟨benchConfig, "c"⟩) := by
  have hdecode : Text.Utf8.decode [0xFF] = .error (.invalid 0 1) :=
    Text.Utf8.decode_cons_of_lead (by decide) []
  have hunnamed : Unnamed (some [0xFF]) := by
    intro value text hvalue htext
    rw [← Option.some.inj hvalue, hdecode] at htext
    cases htext
  have hc : Chosen benchFiles (some [0xFF]) ["c", "b"] "c" :=
    @Chosen.candidate _ _ [] ["b"] _ hunnamed (List.forall_mem_nil _)
      (Files.exists?_of_readText? readText?_bench_c)
  refine ⟨hdecode, ?_⟩
  rw [load?_of_choose? (choose?_of_chosen hc), told_bench_c.ofFile_eq]
  rfl

end Config

end Telemetry
