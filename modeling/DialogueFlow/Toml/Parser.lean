/-
  Reading TOML texts, version 1.1, as JSON objects. A byte order mark at the start is skipped.
-/
import DialogueFlow.Toml.Text
import DialogueFlow.Toml.Scalar
import DialogueFlow.Toml.Document

namespace DialogueFlow.Toml

/-- How many lists and inline tables may be open at once, and how many parts a key may have. -/
def depthLimit : Nat := 80

/-- The text behind blanks, line breaks and comments, as far as there are any. -/
def skipSpace? (cs : List Char) : Option (List Char) := skipLines? (cs.length + 1) cs

/-- A key that does not name more tables than may be open. -/
def readPath? (cs : List Char) : Option (List String × List Char) :=
  match readKey? (cs.length + 1) cs with
  | some (key, rest) => if key.length ≤ depthLimit then some (key, rest) else none
  | none => none

/-- A key and the sign behind it. -/
def readKeySign? (cs : List Char) : Option (List String × List Char) :=
  match readPath? cs with
  | some (key, '=' :: rest) => some (key, rest)
  | _ => none

mutual

/-- The value at the head of the text, with at most `depth` levels of nesting. -/
def readValue? : (fuel depth : Nat) → List Char → Option (Json × List Char)
  | 0, _, _ => none
  | fuel + 1, depth, cs =>
    match skipBlanks cs, depth with
    | '[' :: rest, depth + 1 =>
      (readItems? fuel depth rest).map fun found => (.arr found.1, found.2)
    | '\x7b' :: rest, depth + 1 =>
      (readFields? fuel depth [] rest).map fun found => (Document.toJson found.1, found.2)
    | '[' :: _, 0 => none
    | '\x7b' :: _, 0 => none
    | '"' :: rest, _ => (readString? ('"' :: rest)).map fun found => (.str found.1, found.2)
    | '\'' :: rest, _ => (readString? ('\'' :: rest)).map fun found => (.str found.1, found.2)
    | cs, _ =>
      let (word, rest) := readWord cs
      (ofWord? word).map fun value => (value, rest)

/-- The items of a list up to its closing bracket. -/
def readItems? : (fuel depth : Nat) → List Char → Option (List Json × List Char)
  | 0, _, _ => none
  | fuel + 1, depth, cs =>
    match skipSpace? cs with
    | none => none
    | some (']' :: rest) => some ([], rest)
    | some cs =>
      match readValue? fuel depth cs with
      | none => none
      | some (item, rest) =>
        match skipSpace? rest with
        | some (',' :: rest) =>
          (readItems? fuel depth rest).map fun found => (item :: found.1, found.2)
        | some (']' :: rest) => some ([item], rest)
        | _ => none

/-- The fields of an inline table up to its closing brace, added to those before. -/
def readFields? : (fuel depth : Nat) → Document → List Char → Option (Document × List Char)
  | 0, _, _, _ => none
  | fuel + 1, depth, document, cs =>
    match skipSpace? cs with
    | none => none
    | some ('\x7d' :: rest) => some (document, rest)
    | some cs =>
      match readKeySign? cs with
      | none => none
      | some (key, rest) =>
        match readValue? fuel depth rest with
        | none => none
        | some (value, rest) =>
          match document.assign value key with
          | none => none
          | some document =>
            match skipSpace? rest with
            | some (',' :: rest) => readFields? fuel depth document rest
            | some ('\x7d' :: rest) => some (document, rest)
            | _ => none

end

/-- A document and the header whose table is open. -/
structure Progress where
  document : Document
  header : List String

/-- A line that opens a table, behind its first bracket. -/
def readHeader? (progress : Progress) (cs : List Char) : Option (Progress × List Char) :=
  let (several, cs) : Bool × List Char :=
    match cs with
    | '[' :: rest => (true, rest)
    | rest => (false, rest)
  match readPath? cs with
  | some (key, ']' :: rest) =>
    match several, rest, key.getLast? with
    | true, ']' :: rest, some last =>
      (progress.document.within (Document.appendTable last) key.dropLast).map fun document =>
        (⟨document, key⟩, rest)
    | false, rest, some last =>
      (progress.document.within (Document.openTable last) key.dropLast).map fun document =>
        (⟨document, key⟩, rest)
    | _, _, _ => none
  | _ => none

/-- A line that sets a key. -/
def readEntry? (progress : Progress) (cs : List Char) : Option (Progress × List Char) :=
  match readKeySign? cs with
  | none => none
  | some (key, rest) =>
    match readValue? (2 * rest.length + 2) depthLimit rest with
    | none => none
    | some (value, rest) =>
      (progress.document.within (Document.assign value key) progress.header).map fun document =>
        ({ progress with document }, rest)

/-- The document of the lines that are left. -/
def readLines? : Nat → Progress → List Char → Option Document
  | 0, _, _ => none
  | fuel + 1, progress, cs =>
    match skipSpace? cs with
    | none => none
    | some [] => some progress.document
    | some (c :: rest) =>
      let line := if c = '[' then readHeader? progress rest else readEntry? progress (c :: rest)
      match line with
      | none => none
      | some (progress, rest) =>
        match endLine? rest with
        | some rest => readLines? fuel progress rest
        | none => none

/-- The object of a TOML text. -/
def parse? (text : String) : Option Json :=
  let cs :=
    match text.toList with
    | '\uFEFF' :: rest => rest
    | cs => cs
  (readLines? (cs.length + 1) ⟨[], []⟩ cs).map Document.toJson

end DialogueFlow.Toml
