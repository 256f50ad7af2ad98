/-
  The texts of TOML: blanks, comments, strings on one line and on several, and keys. Readers work
  on the characters that are left and return what they read and the characters behind.
-/
import DialogueFlow.Json.Parser

namespace DialogueFlow.Toml

/-- A blank inside a line. -/
def isBlank (c : Char) : Bool := c = ' ' || c = '\t'

/-- A control character, which no text may hold as it stands. -/
def isControl (c : Char) : Bool := c.toNat < 0x20 && c ≠ '\t' || c = '\x7f'

/-- The text behind leading blanks. -/
def skipBlanks (cs : List Char) : List Char := cs.dropWhile isBlank

/-- The text behind a line break. -/
def passBreak? : List Char → Option (List Char)
  | '\n' :: rest => some rest
  | '\r' :: '\n' :: rest => some rest
  | _ => none

/-- The text behind a comment, at the line break or the end of the text. -/
def skipComment? : List Char → Option (List Char)
  | [] => some []
  | '\n' :: rest => some ('\n' :: rest)
  | '\r' :: '\n' :: rest => some ('\r' :: '\n' :: rest)
  | c :: rest => if isControl c then none else skipComment? rest

/-- The text behind blanks, line breaks and comments. -/
def skipLines? : Nat → List Char → Option (List Char)
  | 0, _ => none
  | fuel + 1, cs =>
    match skipBlanks cs with
    | '#' :: rest =>
      match skipComment? rest with
      | some rest => skipLines? fuel rest
      | none => none
    | rest =>
      match passBreak? rest with
      | some rest => skipLines? fuel rest
      | none => some rest

/-- The text behind blanks, perhaps a comment, and a line break or the end of the text. -/
def endLine? (cs : List Char) : Option (List Char) :=
  let close (cs : List Char) : Option (List Char) := if cs.isEmpty then some [] else passBreak? cs
  match skipBlanks cs with
  | '#' :: rest => (skipComment? rest).bind close
  | rest => close rest

/-! ## Strings -/

/-- A number of this many hexadecimal digits. -/
def readHex? : (count : Nat) → (value : Nat) → List Char → Option (Nat × List Char)
  | 0, value, cs => some (value, cs)
  | _ + 1, _, [] => none
  | count + 1, value, c :: rest =>
    match Json.hexValue? c with
    | some digit => readHex? count (value * 16 + digit) rest
    | none => none

/-- The character that an escape behind its backslash stands for. -/
def readEscape? : List Char → Option (Char × List Char)
  | [] => none
  | letter :: rest =>
    let point (count : Nat) : Option (Char × List Char) :=
      match readHex? count 0 rest with
      | some (n, rest) => if n.isValidChar then some (Char.ofNat n, rest) else none
      | none => none
    match letter with
    | 'b' => some ('\x08', rest)
    | 't' => some ('\t', rest)
    | 'n' => some ('\n', rest)
    | 'f' => some ('\x0c', rest)
    | 'r' => some ('\r', rest)
    | 'e' => some ('\x1b', rest)
    | '"' => some ('"', rest)
    | '\\' => some ('\\', rest)
    | 'x' => point 2
    | 'u' => point 4
    | 'U' => point 8
    | _ => none

/-- A string with escapes on one line, behind its opening quote. -/
def readBasic? : Nat → List Char → Option (List Char × List Char)
  | 0, _ => none
  | _ + 1, [] => none
  | _ + 1, '"' :: rest => some ([], rest)
  | fuel + 1, '\\' :: rest =>
    match readEscape? rest with
    | some (c, rest) => (readBasic? fuel rest).map fun found => (c :: found.1, found.2)
    | none => none
  | fuel + 1, c :: rest =>
    if isControl c then none else (readBasic? fuel rest).map fun found => (c :: found.1, found.2)

/-- A string without escapes on one line, behind its opening quote. -/
def readLiteral? : List Char → Option (List Char × List Char)
  | [] => none
  | c :: rest =>
    if c = '\'' then some ([], rest)
    else if isControl c then none
    else (readLiteral? rest).map fun found => (c :: found.1, found.2)

/-- Quotes at the head of the text that may belong to a string over several lines: the quotes of
its content, and the text behind the string if they also close it. -/
def readQuotes (quote : Char) (cs : List Char) : List Char × Bool × List Char :=
  let count := min 5 (cs.takeWhile (· = quote)).length
  if count < 3 then (List.replicate count quote, false, cs.drop count)
  else (List.replicate (count - 3) quote, true, cs.drop count)

/-- The text behind the blanks and line breaks that a backslash at the end of a line removes. -/
def continued? (cs : List Char) : Option (List Char) :=
  (passBreak? (skipBlanks cs)).map
    (·.dropWhile fun c => isBlank c || c = '\n' || c = '\r')

/-- A string over several lines, behind its opening quotes; escapes only if `escapes`. -/
def readLong? (quote : Char) (escapes : Bool) : Nat → List Char → Option (List Char × List Char)
  | 0, _ => none
  | _ + 1, [] => none
  | fuel + 1, c :: rest =>
    if c = quote then
      match readQuotes quote (c :: rest) with
      | (lead, true, rest) => some (lead, rest)
      | (lead, false, rest) =>
        (readLong? quote escapes fuel rest).map fun found => (lead ++ found.1, found.2)
    else if escapes ∧ c = '\\' then
      match continued? rest with
      | some rest => readLong? quote escapes fuel rest
      | none =>
        match readEscape? rest with
        | some (c, rest) =>
          (readLong? quote escapes fuel rest).map fun found => (c :: found.1, found.2)
        | none => none
    else if c = '\n' ∨ c = '\r' ∧ rest.head? = some '\n' ∨ !isControl c then
      (readLong? quote escapes fuel rest).map fun found => (c :: found.1, found.2)
    else none

/-- A string over several lines; a line break right behind the opening quotes is dropped. -/
def readLongBody? (quote : Char) (escapes : Bool) (cs : List Char) :
    Option (List Char × List Char) :=
  let cs := (passBreak? cs).getD cs
  readLong? quote escapes (cs.length + 1) cs

/-- A string on one line at the head of the text. -/
def readShortString? : List Char → Option (String × List Char)
  | '"' :: rest =>
    (readBasic? (rest.length + 1) rest).map fun found => (String.ofList found.1, found.2)
  | '\'' :: rest => (readLiteral? rest).map fun found => (String.ofList found.1, found.2)
  | _ => none

/-- A string at the head of the text. -/
def readString? : List Char → Option (String × List Char)
  | '"' :: '"' :: '"' :: rest =>
    (readLongBody? '"' true rest).map fun found => (String.ofList found.1, found.2)
  | '\'' :: '\'' :: '\'' :: rest =>
    (readLongBody? '\'' false rest).map fun found => (String.ofList found.1, found.2)
  | cs => readShortString? cs

/-! ## Keys -/

/-- A character of a key that is not quoted. -/
def inBareKey (c : Char) : Bool := c.isAlphanum || c = '_' || c = '-'

/-- One part of a key. -/
def readKeyPart? (cs : List Char) : Option (String × List Char) :=
  match cs.takeWhile inBareKey with
  | [] => readShortString? cs
  | part => some (String.ofList part, cs.dropWhile inBareKey)

/-- A key: its parts, with points and perhaps blanks between them and blanks around. -/
def readKey? : Nat → List Char → Option (List String × List Char)
  | 0, _ => none
  | fuel + 1, cs =>
    match readKeyPart? (skipBlanks cs) with
    | none => none
    | some (part, rest) =>
      match skipBlanks rest with
      | '.' :: rest => (readKey? fuel rest).map fun found => (part :: found.1, found.2)
      | rest => some ([part], rest)

end DialogueFlow.Toml
