import Telemetry.Files
import Telemetry.Schema.Document

/-! The place where schemas are kept, each under its identity. -/

namespace Telemetry.Schema

structure Store where
  schemas : Table Identity Schema

namespace Store

def empty : Store := ⟨∅⟩

def get? (s : Store) (i : Identity) : Option Schema := s.schemas.get? i

def size (s : Store) : Nat := s.schemas.size

def isEmpty (s : Store) : Bool := s.schemas.isEmpty

def save (s : Store) (schema : Schema) : Except SchemaError Store :=
  match schema.defect? with
  | some e => .error e
  | none => .ok ⟨s.schemas.insert schema.identity schema⟩

end Store

def ofFile (files : Files) (path : String) : Except SchemaError Schema :=
  match files.readText? path with
  | some text => ofText text
  | none => .error (.io path)

def isDocument (name : String) : Bool := Files.extension? name = some "json"

def loadPaths (files : Files) (origins : Table Identity String) (store : Store) :
    List String → Except SchemaError Store
  | [] => .ok store
  | path :: paths =>
    match ofFile files path with
    | .error e => .error e
    | .ok schema =>
      match origins.get? schema.identity with
      | some first => .error (.duplicateSchema schema.identity first path)
      | none =>
        match store.save schema with
        | .error e => .error e
        | .ok store => loadPaths files (origins.insert schema.identity path) store paths

def documentPaths (directory : String) (names : List String) : List String :=
  ((names.filter isDocument).mergeSort (· ≤ ·)).map (Files.join directory)

def Store.ofDirectory (files : Files) (directory : String) : Except SchemaError Store :=
  match files.list? directory with
  | none => .error (.io directory)
  | some names => loadPaths files ∅ .empty (documentPaths directory names)

end Telemetry.Schema
