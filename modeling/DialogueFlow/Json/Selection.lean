/-
  Reading an object of which only some fields are wanted. The others are only checked for the shape
  of JSON: they may nest to any depth and hold any number and any escaped unit.
-/
import DialogueFlow.Json.Parser

namespace DialogueFlow.Json

/-- The text behind the closing quote of a string. -/
def skipString? : Nat → List Char → Option (List Char)
  | 0, _ => none
  | _ + 1, [] => none
  | _ + 1, '"' :: rest => some rest
  | fuel + 1, '\\' :: 'u' :: rest =>
    match readUnit? rest with
    | some (_, rest) => skipString? fuel rest
    | none => none
  | fuel + 1, '\\' :: letter :: rest =>
    if (escapeLetter? letter).isSome then skipString? fuel rest else none
  | fuel + 1, c :: rest => if c = '\\' ∨ c.toNat < 0x20 then none else skipString? fuel rest

mutual

/-- The text behind a value. -/
def skipValue? : Nat → List Char → Option (List Char)
  | 0, _ => none
  | fuel + 1, cs =>
    match skipSpace cs with
    | 'n' :: 'u' :: 'l' :: 'l' :: rest => some rest
    | 't' :: 'r' :: 'u' :: 'e' :: rest => some rest
    | 'f' :: 'a' :: 'l' :: 's' :: 'e' :: rest => some rest
    | '"' :: rest => skipString? (rest.length + 1) rest
    | '[' :: rest =>
      match skipSpace rest with
      | ']' :: rest => some rest
      | rest => skipItems? fuel rest
    | '\x7b' :: rest =>
      match skipSpace rest with
      | '\x7d' :: rest => some rest
      | rest => skipFields? fuel rest
    | cs => (readNumberText? cs).map (·.2)

/-- The text behind the closing bracket after one or more items. -/
def skipItems? : Nat → List Char → Option (List Char)
  | 0, _ => none
  | fuel + 1, cs =>
    match skipValue? fuel cs with
    | none => none
    | some rest =>
      match skipSpace rest with
      | ']' :: rest => some rest
      | ',' :: rest => skipItems? fuel rest
      | _ => none

/-- The text behind the closing brace after one or more fields. -/
def skipFields? : Nat → List Char → Option (List Char)
  | 0, _ => none
  | fuel + 1, cs =>
    match skipSpace cs with
    | '"' :: rest =>
      match skipString? (rest.length + 1) rest with
      | none => none
      | some rest =>
        match skipSpace rest with
        | ':' :: rest =>
          match skipValue? fuel rest with
          | none => none
          | some rest =>
            match skipSpace rest with
            | '\x7d' :: rest => some rest
            | ',' :: rest => skipFields? fuel rest
            | _ => none
        | _ => none
    | _ => none

end

/-- The wanted fields up to the closing brace, in the order of the text. -/
def readWanted? (wanted : String → Bool) :
    Nat → List Char → Option (List (String × Json) × List Char)
  | 0, _ => none
  | fuel + 1, cs => do
    let (name, rest) ← readName? cs
    let (field, rest) ←
      if wanted name then
        (readValue? (readingFuel rest) (depthLimit - 1) rest).map fun found =>
          ([(name, found.1)], found.2)
      else (skipValue? (readingFuel rest) rest).map fun rest => ([], rest)
    match skipSpace rest with
    | '\x7d' :: rest => some (field, rest)
    | ',' :: rest => (readWanted? wanted fuel rest).map fun found => (field ++ found.1, found.2)
    | _ => none

/-- The value of a whole text; of an object only the wanted fields, in the order of the text. -/
def parseWanted? (wanted : String → Bool) (text : String) : Option Json :=
  match skipSpace text.toList with
  | '\x7b' :: rest =>
    match skipSpace rest with
    | '\x7d' :: rest => if skipSpace rest = [] then some (.obj []) else none
    | rest =>
      match readWanted? wanted (rest.length + 1) rest with
      | some (fields, rest) => if skipSpace rest = [] then some (.obj fields) else none
      | none => none
  | _ => parseRaw? text

end DialogueFlow.Json
