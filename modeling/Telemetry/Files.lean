import Telemetry.Text.Utf8

/-! A tree of files, and a working directory in it. -/

namespace Telemetry

/-- A fault that is reported but not worded here: a mark stands where its text would be. -/
inductive Fault where
  | json
  | toml
  | io
deriving DecidableEq, Repr

def Fault.mark : Fault → String
  | json => "<json>"
  | toml => "<toml>"
  | io => "<io>"

inductive Node where
  | file (bytes : List UInt8)
  | directory
  /-- what cannot be opened, and whether it is a directory, if so much can be told -/
  | closed (kind : Option Bool)
deriving DecidableEq, Repr

def Node.isDirectory : Node → Bool
  | directory | closed (some true) => true
  | _ => false

/-- Nodes by the names on the way to them from the root. The directories on the way to a node need
no entry of their own. -/
structure Files where
  here : List String
  entries : List (List String × Node)

namespace Files

def names (path : String) : List String := path.splitOn "/"

def isAbsolute (path : String) : Bool := path.startsWith "/"

def enter (place : List String) (name : String) : List String :=
  if name = "" ∨ name = "." then place
  else if name = ".." then place.dropLast
  else place ++ [name]

def locate (here : List String) (path : String) : List String :=
  (names path).foldl enter (if isAbsolute path then [] else here)

def ofList (here : List String) (l : List (String × Node)) : Files :=
  ⟨here, (here, .directory) :: l.map fun (path, node) => (locate here path, node)⟩

def nodeAt? (files : Files) (place : List String) : Option Node :=
  match files.entries.find? (·.1 = place) with
  | some (_, node) => some node
  | none =>
    if place.isEmpty || files.entries.any fun e => place.isPrefixOf e.1 then some .directory
    else none

def walk (files : Files) (place : List String) : List String → Option (List String)
  | [] => some place
  | name :: rest =>
    if (files.nodeAt? place).any Node.isDirectory ∧ (files.nodeAt? (enter place name)).isSome then
      files.walk (enter place name) rest
    else none

def place? (files : Files) (path : String) : Option (List String) :=
  if path = "" then none
  else files.walk (if isAbsolute path then [] else files.here) (names path)

def node? (files : Files) (path : String) : Option Node :=
  (files.place? path).bind files.nodeAt?

/-- What cannot be looked at is taken for missing. -/
def exists? (files : Files) (path : String) : Bool :=
  match files.node? path with
  | some (.closed kind) => kind.isSome
  | some _ => true
  | none => false

def isDirectory (files : Files) (path : String) : Bool := (files.node? path).any Node.isDirectory

def read? (files : Files) (path : String) : Option (List UInt8) :=
  match files.node? path with
  | some (.file bytes) => some bytes
  | _ => none

def readText? (files : Files) (path : String) : Option String :=
  (files.read? path).bind fun bytes => (Text.Utf8.decode bytes).toOption

def list? (files : Files) (path : String) : Option (List String) :=
  match files.place? path with
  | some place =>
    if files.nodeAt? place = some .directory then
      some (files.entries.filterMap fun e =>
        if place.isPrefixOf e.1 then (e.1.drop place.length).head? else none).eraseDups
    else none
  | none => none

def join (directory name : String) : String :=
  if directory.endsWith "/" then directory ++ name else directory ++ "/" ++ name

def onTheWay (path : String) : List String :=
  let names := names path
  ((List.range (names.length + 1)).map fun n => "/".intercalate (names.take n)).filter (· ≠ "")

def extension? (name : String) : Option String :=
  match name.toList.reverse.span (· ≠ '.') with
  | (ext, '.' :: _ :: _) => some (String.ofList ext.reverse)
  | _ => none

end Files

end Telemetry
