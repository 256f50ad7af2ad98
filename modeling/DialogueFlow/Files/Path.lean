/-
  Paths of files as texts with slashes between their segments. An empty segment and a point lead
  nowhere; they only matter at the start of a path.
-/

namespace DialogueFlow.Files

/-- The segments between the slashes. -/
def splitPath : List Char → List (List Char)
  | [] => [[]]
  | c :: rest =>
    if c = '/' then [] :: splitPath rest
    else
      match splitPath rest with
      | [] => [[c]]
      | segment :: more => (c :: segment) :: more

/-- Segments with slashes between them. -/
def joinPath : List (List Char) → List Char
  | [] => []
  | [segment] => segment
  | segment :: rest => segment ++ '/' :: joinPath rest

/-- The segments of a path. -/
def segments (path : String) : List (List Char) := splitPath path.toList

/-- A segment that leads nowhere. -/
def isIdle (segment : List Char) : Bool := segment = [] || segment = ['.']

/-- The segments, last first, without idle ones at the end of the path, but for its first. -/
def dropIdle : List (List Char) → List (List Char)
  | [] => []
  | [segment] => [segment]
  | segment :: rest => if isIdle segment then dropIdle rest else segment :: rest

/-- The path of the directory that a path is in; empty if the path is a lone name. -/
def parent (path : String) : String :=
  match dropIdle (segments path).reverse with
  | _ :: rest => String.ofList (joinPath (dropIdle rest).reverse)
  | [] => ""

/-- A file name without its last point and what follows; a point in front does not count. -/
def stem (name : List Char) : List Char :=
  match name.reverse.dropWhile (· ≠ '.') with
  | '.' :: rest => if rest = [] then name else rest.reverse
  | _ => name

/-- The path with another extension; a path that does not end in a name stays as it is. -/
def withExtension (path extension : String) : String :=
  match dropIdle (segments path).reverse with
  | name :: rest =>
    if isIdle name ∨ name = ['.', '.'] then path
    else
      String.ofList (joinPath (((stem name ++ '.' :: extension.toList) :: rest).reverse))
  | [] => path

example : withExtension "a/state.json" "json.tmp" = "a/state.json.tmp" := by decide +kernel

example : parent "a//b/x.json" = "a//b" := by decide +kernel

end DialogueFlow.Files
