/-
  The tables of a TOML text. A table may be given a header once, may be implied by the headers of
  its parts, and may be made by a key with points; each way to name it again is refused except where
  it adds to a table that was only implied. Values in place are closed.
-/
import DialogueFlow.Json.Basic

namespace DialogueFlow.Toml

/-- How a table came to be. -/
inductive Origin where
  | header
  /-- Named on the way to another table of a header. -/
  | implied
  /-- Named on the way to a value by a key with points. -/
  | dotted
  deriving DecidableEq, Repr

/-- What a key stands for. -/
inductive Node where
  | value (value : Json)
  | table (origin : Origin) (entries : List (String × Node))
  /-- A list of tables of which the last is still open. -/
  | tables (closed : List Json) (entries : List (String × Node))
  deriving Inhabited

/-- The keys of a table. -/
abbrev Document := Table Node

mutual

/-- The value of a node. -/
def Node.toJson : Node → Json
  | .value value => value
  | .table _ entries => .obj (entriesJson entries)
  | .tables closed entries => .arr (closed ++ [.obj (entriesJson entries)])

/-- The values of the keys. -/
def entriesJson : List (String × Node) → List (String × Json)
  | [] => []
  | (name, node) :: rest => (name, node.toJson) :: entriesJson rest

end

namespace Document

/-- The object of a document. -/
def toJson (document : Document) : Json := .obj (entriesJson document)

/-- Changes the table that the keys of a header lead to, and makes what is missing on the way. -/
def within (change : Document → Option Document) : List String → Document → Option Document
  | [], document => change document
  | key :: rest, document =>
    match document.get? key with
    | none => (within change rest []).map fun inner => document.insert key (.table .implied inner)
    | some (.table origin inner) =>
      (within change rest inner).map fun inner => document.insert key (.table origin inner)
    | some (.tables closed inner) =>
      (within change rest inner).map fun inner => document.insert key (.tables closed inner)
    | some (.value _) => none

/-- Opens the table of a header. -/
def openTable (key : String) (document : Document) : Option Document :=
  match document.get? key with
  | none => some (document.insert key (.table .header []))
  | some (.table .implied inner) => some (document.insert key (.table .header inner))
  | _ => none

/-- Opens one more table of a list of tables. -/
def appendTable (key : String) (document : Document) : Option Document :=
  match document.get? key with
  | none => some (document.insert key (.tables [] []))
  | some (.tables closed inner) =>
    some (document.insert key (.tables (closed ++ [.obj (entriesJson inner)]) []))
  | _ => none

/-- Sets the value of a key with points. The way to the value may lead through a table that headers
made, but its last table is one that a key with points makes. -/
def assign (value : Json) : List String → Document → Option Document
  | [], _ => none
  | [key], document =>
    match document.get? key with
    | none => some (document.insert key (.value value))
    | some _ => none
  | key :: next :: rest, document =>
    let descend (origin : Origin) (inner : Document) : Option Document :=
      (assign value (next :: rest) inner).map fun inner => document.insert key (.table origin inner)
    match document.get? key with
    | none => descend .dotted []
    | some (.table .dotted inner) => descend .dotted inner
    | some (.table .implied inner) => if rest.isEmpty then none else descend .implied inner
    | some (.tables closed inner) =>
      if rest.isEmpty then none
      else
        (assign value (next :: rest) inner).map fun inner =>
          document.insert key (.tables closed inner)
    | _ => none

end Document

end DialogueFlow.Toml
