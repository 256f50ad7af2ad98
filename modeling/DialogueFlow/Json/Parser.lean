/-
  Reading JSON texts. A text nested deeper than 127 levels, a lone surrogate, a raw control
  character, a leading zero and a number too large for a float are all refused. The reader keeps
  the fields of an object in the order of the text; `parse?` then makes the value normal.
-/
import DialogueFlow.Json.Basic
import DialogueFlow.Decimal.Reading

namespace DialogueFlow.Json

/-- How many arrays and objects may be open at once. -/
def depthLimit : Nat := 127

/-- The four characters that may stand between tokens. -/
def isSpace (c : Char) : Bool := c = ' ' || c = '\n' || c = '\t' || c = '\r'

/-- The text after leading spaces. -/
def skipSpace (cs : List Char) : List Char := cs.dropWhile isSpace

/-- The value of a hexadecimal digit. -/
def hexValue? (c : Char) : Option Nat :=
  if '0' ≤ c ∧ c ≤ '9' then some (c.toNat - 48)
  else if 'a' ≤ c ∧ c ≤ 'f' then some (c.toNat - 87)
  else if 'A' ≤ c ∧ c ≤ 'F' then some (c.toNat - 55)
  else none

/-- Four hexadecimal digits at the head of the text. -/
def readUnit? : List Char → Option (Nat × List Char)
  | a :: b :: c :: d :: rest =>
    match hexValue? a, hexValue? b, hexValue? c, hexValue? d with
    | some a, some b, some c, some d => some (((a * 16 + b) * 16 + c) * 16 + d, rest)
    | _, _, _, _ => none
  | _ => none

/-- The character of an escape that is one letter. -/
def escapeLetter? : Char → Option Char
  | '"' => some '"'
  | '\\' => some '\\'
  | '/' => some '/'
  | 'b' => some '\x08'
  | 'f' => some '\x0c'
  | 'n' => some '\n'
  | 'r' => some '\r'
  | 't' => some '\t'
  | _ => none

/-- The character that one or two escaped 16-bit units stand for, with the units' text behind
`\u`; a surrogate must be followed by its partner. -/
def readPoint? (cs : List Char) : Option (Char × List Char) :=
  match readUnit? cs with
  | none => none
  | some (unit, rest) =>
    if unit < 0xD800 ∨ 0xE000 ≤ unit then some (Char.ofNat unit, rest)
    else if 0xDC00 ≤ unit then none
    else
      match rest with
      | '\\' :: 'u' :: rest =>
        match readUnit? rest with
        | some (low, rest) =>
          if 0xDC00 ≤ low ∧ low < 0xE000 then
            some (Char.ofNat (0x10000 + (unit - 0xD800) * 0x400 + (low - 0xDC00)), rest)
          else none
        | none => none
      | _ => none

/-- The characters of a string up to its closing quote. -/
def readString? : Nat → List Char → Option (List Char × List Char)
  | 0, _ => none
  | _ + 1, [] => none
  | _ + 1, '"' :: rest => some ([], rest)
  | fuel + 1, '\\' :: 'u' :: rest =>
    match readPoint? rest with
    | some (c, rest) => (readString? fuel rest).map fun found => (c :: found.1, found.2)
    | none => none
  | fuel + 1, '\\' :: letter :: rest =>
    match escapeLetter? letter with
    | some c => (readString? fuel rest).map fun found => (c :: found.1, found.2)
    | none => none
  | fuel + 1, c :: rest =>
    if c = '\\' ∨ c.toNat < 0x20 then none
    else (readString? fuel rest).map fun found => (c :: found.1, found.2)

/-- The parts of a number as they are written. -/
structure NumberText where
  negative : Bool
  whole : List Char
  fraction : List Char
  /-- The digits of the exponent and whether a minus sign stands before them. -/
  exponent : Option (Bool × List Char)

/-- Leading digits and what follows them. -/
def digitsAndRest (cs : List Char) : List Char × List Char :=
  (cs.takeWhile Char.isDigit, cs.dropWhile Char.isDigit)

/-- The whole part of a number: a lone zero, or digits that start with another. -/
def readWhole? : List Char → Option (List Char × List Char)
  | '0' :: c :: rest => if c.isDigit then none else some (['0'], c :: rest)
  | cs =>
    match digitsAndRest cs with
    | ([], _) => none
    | found => some found

/-- A point and at least one digit, if a point stands there. -/
def readFraction? : List Char → Option (List Char × List Char)
  | '.' :: rest =>
    match digitsAndRest rest with
    | ([], _) => none
    | found => some found
  | cs => some ([], cs)

/-- A sign, if there is one, and at least one digit. -/
def readSigned? (cs : List Char) : Option ((Bool × List Char) × List Char) :=
  let (negative, rest) :=
    match cs with
    | '+' :: rest => (false, rest)
    | '-' :: rest => (true, rest)
    | rest => (false, rest)
  match digitsAndRest rest with
  | ([], _) => none
  | (digits, rest) => some ((negative, digits), rest)

/-- An exponent, if there is one. -/
def readExponent? : List Char → Option (Option (Bool × List Char) × List Char)
  | c :: rest =>
    if c = 'e' ∨ c = 'E' then (readSigned? rest).map fun found => (some found.1, found.2)
    else some (none, c :: rest)
  | [] => some (none, [])

/-- A number at the head of the text. -/
def readNumberText? (cs : List Char) : Option (NumberText × List Char) := do
  let (negative, cs) :=
    match cs with
    | '-' :: rest => (true, rest)
    | rest => (false, rest)
  let (whole, cs) ← readWhole? cs
  let (fraction, cs) ← readFraction? cs
  let (exponent, cs) ← readExponent? cs
  return (⟨negative, whole, fraction, exponent⟩, cs)

/-- The value of a number: whole if it is written so and fits 64 bits, signed or not. -/
def NumberText.value? (number : NumberText) : Option Json :=
  let asFloat (down : Bool) (exponent : List Char) : Option Json :=
    (Decimal.readFloat? number.whole number.fraction down exponent).map fun x =>
      .float (if number.negative then -x else x)
  match number.fraction, number.exponent with
  | [], none =>
    let n := number.whole.foldl (fun n c => n * 10 + Decimal.digitValue c) 0
    if number.negative then
      if n = 0 then some (.float (-0.0))
      else if n ≤ 2 ^ 63 then some (.int (-n))
      else asFloat false []
    else if n < 2 ^ 64 then some (.int n)
    else asFloat false []
  | _, some (down, digits) => asFloat down digits
  | _, none => asFloat false []

/-- The name of a field and the colon behind it. -/
def readName? (cs : List Char) : Option (String × List Char) :=
  match skipSpace cs with
  | '"' :: rest =>
    match readString? (rest.length + 1) rest with
    | some (name, rest) =>
      match skipSpace rest with
      | ':' :: rest => some (String.ofList name, rest)
      | _ => none
    | none => none
  | _ => none

mutual

/-- The value at the head of the text, with at most `depth` levels of nesting. -/
def readValue? : (fuel depth : Nat) → List Char → Option (Json × List Char)
  | 0, _, _ => none
  | fuel + 1, depth, cs =>
    match skipSpace cs with
    | 'n' :: 'u' :: 'l' :: 'l' :: rest => some (.null, rest)
    | 't' :: 'r' :: 'u' :: 'e' :: rest => some (.bool true, rest)
    | 'f' :: 'a' :: 'l' :: 's' :: 'e' :: rest => some (.bool false, rest)
    | '"' :: rest =>
      (readString? (rest.length + 1) rest).map fun found =>
        (.str (String.ofList found.1), found.2)
    | '[' :: rest =>
      match depth with
      | 0 => none
      | depth + 1 =>
        match skipSpace rest with
        | ']' :: rest => some (.arr [], rest)
        | rest => (readItems? fuel depth rest).map fun found => (.arr found.1, found.2)
    | '\x7b' :: rest =>
      match depth with
      | 0 => none
      | depth + 1 =>
        match skipSpace rest with
        | '\x7d' :: rest => some (.obj [], rest)
        | rest => (readFields? fuel depth rest).map fun found => (.obj found.1, found.2)
    | cs =>
      match readNumberText? cs with
      | some (number, rest) => number.value?.map fun value => (value, rest)
      | none => none

/-- One or more items up to the closing bracket. -/
def readItems? : (fuel depth : Nat) → List Char → Option (List Json × List Char)
  | 0, _, _ => none
  | fuel + 1, depth, cs =>
    match readValue? fuel depth cs with
    | none => none
    | some (item, rest) =>
      match skipSpace rest with
      | ']' :: rest => some ([item], rest)
      | ',' :: rest =>
        (readItems? fuel depth rest).map fun found => (item :: found.1, found.2)
      | _ => none

/-- One or more fields up to the closing brace. -/
def readFields? : (fuel depth : Nat) → List Char → Option (List (String × Json) × List Char)
  | 0, _, _ => none
  | fuel + 1, depth, cs =>
    match readName? cs with
    | none => none
    | some (name, rest) =>
      match readValue? fuel depth rest with
      | none => none
      | some (value, rest) =>
        match skipSpace rest with
        | '\x7d' :: rest => some ([(name, value)], rest)
        | ',' :: rest =>
          (readFields? fuel depth rest).map fun found => ((name, value) :: found.1, found.2)
        | _ => none

end

/-- More rounds than the reader can take on a text. -/
def readingFuel (cs : List Char) : Nat := 2 * cs.length + 2

/-- The value of a whole text, fields in the order of the text. -/
def parseRaw? (text : String) : Option Json :=
  let cs := text.toList
  match readValue? (readingFuel cs) depthLimit cs with
  | some (value, rest) => if skipSpace rest = [] then some value else none
  | none => none

/-- The value of a whole text; of fields of one name the last counts. -/
def parse? (text : String) : Option Json := (parseRaw? text).map normal

/-- The characters of a text in two parts. -/
theorem toList_append {first second : String} {cs ds : List Char} (hfirst : first.toList = cs)
    (hsecond : second.toList = ds) : (first ++ second).toList = cs ++ ds := by
  rw [String.toList_append, hfirst, hsecond]

/-- Reading depends only on the characters of a text. Where they are known it can be evaluated
without decoding the text. -/
theorem parse?_of_toList {text : String} {cs : List Char} (h : text.toList = cs) :
    parse? text = (match readValue? (readingFuel cs) depthLimit cs with
      | some (value, rest) => if skipSpace rest = [] then some value else none
      | none => none).map normal := by
  subst h
  rfl

end DialogueFlow.Json
