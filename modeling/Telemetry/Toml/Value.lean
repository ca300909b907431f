/-! TOML documents as trees, and the rules by which headers and dotted keys may build on one
another. -/

namespace Telemetry.Toml

/-- How a table came into being, which decides what may still be added to it. -/
inductive Form where
  | header
  | implied
  | dotted
  | inlined
deriving DecidableEq, Repr

inductive Value where
  | string (s : String)
  | integer (i : Int)
  | float
  | boolean (b : Bool)
  | datetime
  | array (elements : List Value)
  | table (form : Form) (members : List (String × Value))
  | tables (elements : List (List (String × Value)))
deriving Inhabited

abbrev Members := List (String × Value)

def find? (key : String) (members : Members) : Option Value :=
  (members.find? (·.1 = key)).map Prod.snd

def alter (key : String) (f : Option Value → Option Value) : Members → Option Members
  | [] => (f none).map fun v => [(key, v)]
  | (k, v) :: rest =>
    if k = key then (f (some v)).map fun v => (k, v) :: rest
    else (alter key f rest).map ((k, v) :: ·)

def alterLast (f : Members → Option Members) : List Members → Option (List Members)
  | [] => none
  | [m] => (f m).map ([·])
  | m :: ms => (alterLast f ms).map (m :: ·)

def insertDotted (key : String) (v : Value) : List String → Members → Option Members
  | [], members => alter key (fun | none => some v | some _ => none) members
  | name :: rest, members =>
    alter name (fun
      | none => (insertDotted key v rest []).map (.table .dotted)
      | some (.table .dotted m) => (insertDotted key v rest m).map (.table .dotted)
      | some (.table .implied m) =>
        if rest.isEmpty then none else (insertDotted key v rest m).map (.table .implied)
      | some (.tables ms) =>
        if rest.isEmpty then none else (alterLast (insertDotted key v rest) ms).map .tables
      | some _ => none) members

def insertInline (key : String) (v : Value) : List String → Members → Option Members
  | [], members => alter key (fun | none => some v | some _ => none) members
  | name :: rest, members =>
    alter name (fun
      | none => (insertInline key v rest []).map (.table .dotted)
      | some (.table .dotted m) => (insertInline key v rest m).map (.table .dotted)
      | some _ => none) members

def alterAt (f : Members → Option Members) : List String → Members → Option Members
  | [], members => f members
  | name :: rest, members =>
    alter name (fun
      | none => (alterAt f rest []).map (.table .implied)
      | some (.table .inlined _) => none
      | some (.table form m) => (alterAt f rest m).map (.table form)
      | some (.tables ms) => (alterLast (alterAt f rest) ms).map .tables
      | some _ => none) members

def openTable (name : String) : Members → Option Members :=
  alter name fun
    | none => some (.table .header [])
    | some (.table .implied m) => some (.table .header m)
    | some _ => none

def openElement (name : String) : Members → Option Members :=
  alter name fun
    | none => some (.tables [[]])
    | some (.tables ms) => some (.tables (ms ++ [[]]))
    | some _ => none

structure Document where
  root : Members
  current : List String

namespace Document

def empty : Document := ⟨[], []⟩

def addKey (d : Document) (path : List String) (key : String) (v : Value) : Option Document :=
  (alterAt (insertDotted key v path) d.current d.root).map (⟨·, d.current⟩)

def addHeader (d : Document) (path : List String) (name : String) : Option Document :=
  (alterAt (openTable name) path d.root).map (⟨·, path ++ [name]⟩)

def addElement (d : Document) (path : List String) (name : String) : Option Document :=
  (alterAt (openElement name) path d.root).map (⟨·, path ++ [name]⟩)

end Document

end Telemetry.Toml
