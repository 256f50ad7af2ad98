/-
  Tokens of templates. A template is text with outputs between double braces, blocks between braces
  with percent signs, and comments between braces with number signs. A minus sign inside a marker
  removes the blank characters on its outer side. Raw blocks are text as they stand.
-/
import DialogueFlow.Template.Failure
import DialogueFlow.Json.Parser
import DialogueFlow.Text.Blank

namespace DialogueFlow.Template

inductive Token where
  /-- Text outside of all markers. -/
  | text (s : String)
  | openOutput
  | closeOutput
  | openBlock
  | closeBlock
  | name (s : String)
  | str (s : String)
  | int (n : Nat)
  | float (x : Float)
  /-- An operator or a bracket. -/
  | symbol (s : String)
  deriving DecidableEq, Repr

namespace Token

/-- The blank characters inside markers. -/
def isSpace (c : Char) : Bool := c = ' ' || c = '\t' || c = '\n' || c = '\r' || c = '\x0c'

/-- A character that a name may start with. -/
def startsName (c : Char) : Bool := c.isAlpha || c = '_'

/-- A character that a name may go on with. -/
def inName (c : Char) : Bool := c.isAlphanum || c = '_'

/-- Operators of two characters. -/
def doubles : List (List Char) :=
  [['/', '/'], ['*', '*'], ['=', '='], ['!', '='], ['>', '='], ['<', '=']]

/-- Operators of one character. -/
def singles : List Char :=
  ['+', '-', '*', '/', '%', '.', ',', ':', '~', '|', '=', '>', '<', '(', ')', '[', ']', '\x7b', '\x7d']

/-- How a bracket changes the number of open brackets. -/
def nesting (c : Char) : Int :=
  if c = '(' ∨ c = '[' ∨ c = '\x7b' then 1 else if c = ')' ∨ c = ']' ∨ c = '\x7d' then -1 else 0

/-! ## Literals -/

/-- The number that digits in a base stand for, if all are digits of it. -/
def valueIn? (base : Nat) (digits : List Char) : Option Nat :=
  if digits.isEmpty then none
  else digits.foldl (fun value? c =>
    match value?, Json.hexValue? c with
    | some value, some digit => if digit < base then some (value * base + digit) else none
    | _, _ => none) (some 0)

/-- The code that this many hexadecimal digits stand for; the first may be a plus sign. -/
def readHexCode? (count : Nat) (cs : List Char) : Option (Nat × List Char) :=
  let written := cs.take count
  let digits :=
    match written with
    | '+' :: digits => digits
    | digits => digits
  if written.length < count then none
  else (valueIn? 16 digits).map fun code => (code, cs.drop count)

/-- The character that one or two 16-bit codes stand for, behind the first mark `\u`; half of a pair
must be followed by the other half. -/
def readPoint? (cs : List Char) : Option (Char × List Char) :=
  match readHexCode? 4 cs with
  | none => none
  | some (high, rest) =>
    if high < 0xD800 ∨ 0xE000 ≤ high then some (Char.ofNat high, rest)
    else
      match rest with
      | '\\' :: 'u' :: rest =>
        match readHexCode? 4 rest with
        | some (low, rest) =>
          if high < 0xDC00 ∧ 0xDC00 ≤ low ∧ low < 0xE000 then
            some (Char.ofNat (0x10000 + (high - 0xD800) * 0x400 + (low - 0xDC00)), rest)
          else none
        | none => none
      | _ => none

/-- An octal digit. -/
def isOctal (c : Char) : Bool := '0' ≤ c && c ≤ '7'

/-- The characters that an escape behind its backslash stands for. Up to three octal digits are a
code below 256; a backslash before a character without a meaning stands for itself. -/
def readEscape? : List Char → Option (List Char × List Char)
  | [] => none
  | 'u' :: rest => (readPoint? rest).map fun found => ([found.1], found.2)
  | 'x' :: rest => (readHexCode? 2 rest).map fun found => ([Char.ofNat found.1], found.2)
  | letter :: rest =>
    if isOctal letter then
      let digits := letter :: (rest.take 2).takeWhile isOctal
      match valueIn? 8 digits with
      | some code =>
        if code < 256 then some ([Char.ofNat code], rest.drop (digits.length - 1)) else none
      | none => none
    else if letter = '\'' then some ([letter], rest)
    else
      match Json.escapeLetter? letter with
      | some c => some ([c], rest)
      | none => some (['\\', letter], rest)

example : readEscape? ['x', '4', '1', '1'] = some (['A'], ['1']) := by decide +kernel

example : readEscape? ['1', '8'] = some (['\x01'], ['8']) := by decide +kernel

example : readEscape? ['q'] = some (['\\', 'q'], []) := by decide +kernel

/-- The characters of a text literal up to its closing quote, escapes resolved. -/
def readString (quote : Char) : Nat → List Char → Except Failure (List Char × List Char)
  | 0, _ => .error (.syntaxError "unexpected end of string")
  | _ + 1, [] => .error (.syntaxError "unexpected end of string")
  | fuel + 1, c :: rest =>
    if c = quote then .ok ([], rest)
    else if c = '\\' then
      match readEscape? rest with
      | some (found, rest) =>
        (readString quote fuel rest).map fun more => (found ++ more.1, more.2)
      | none => .error (.syntaxError "bad string escape")
    else (readString quote fuel rest).map fun found => (c :: found.1, found.2)

/-- A decimal digit, or an underscore between digits. -/
def inNumber (c : Char) : Bool := c.isDigit || c = '_'

/-- The digits without the underscores. -/
def digitsOnly (cs : List Char) : List Char := cs.filter (· ≠ '_')

/-- A whole number below `2 ^ 128`. -/
def ofInt (base : Nat) (written : List Char) : Except Failure Token :=
  if written.getLast? = some '_' then .error (.syntaxError "invalid integer")
  else
    match valueIn? base (digitsOnly written) with
    | some n => if n < 2 ^ 128 then .ok (.int n) else .error (.syntaxError "invalid integer")
    | none => .error (.syntaxError "invalid integer")

/-- A floating-point number of these digits, correctly rounded. -/
def ofFloat (whole fraction : List Char) (negative : Bool) (exponent : List Char) : Token :=
  let digits := (digitsOnly whole ++ digitsOnly fraction).foldl
    (fun n c => n * 10 + (c.toNat - 48)) 0
  let power : Int := (digitsOnly exponent).foldl (fun n c => n * 10 + (c.toNat - 48)) 0
  let scale := (if negative then -power else power) - (digitsOnly fraction).length
  .float (Float.ofScientific digits (scale < 0) scale.natAbs)

/-- A number after its base was read. -/
def readRadix (base : Nat) (cs : List Char) : Except Failure (Token × List Char) :=
  let belongs (c : Char) : Bool := inNumber c || base = 16 && (Json.hexValue? c).isSome
  (ofInt base (cs.takeWhile belongs)).map fun token => (token, cs.dropWhile belongs)

/-- The sign of an exponent at the head of the text: whether it is negative, and the text behind. -/
def readExponentSign : List Char → Bool × List Char
  | '+' :: rest => (false, rest)
  | '-' :: rest => (true, rest)
  | rest => (false, rest)

/-- The mark of an exponent. -/
def isExponentMark (c : Char) : Bool := c = 'e' || c = 'E'

/-- The point before this text belongs to the number in front: what follows is no name, or it is an
exponent. -/
def pointBelongs : List Char → Bool
  | [] => true
  | c :: rest =>
    !startsName c || isExponentMark c && (readExponentSign rest).2.head?.any Char.isDigit

/-- A number in base ten: whole, or with a point, an exponent or both. -/
def readDecimal (cs : List Char) : Except Failure (Token × List Char) :=
  let whole := cs.takeWhile inNumber
  let rest := cs.dropWhile inNumber
  let (point, fraction, rest) : Bool × List Char × List Char :=
    match rest with
    | '.' :: more =>
      if pointBelongs more then (true, more.takeWhile inNumber, more.dropWhile inNumber)
      else (false, [], rest)
    | rest => (false, [], rest)
  let (mark, negative, exponent, rest) : Bool × Bool × List Char × List Char :=
    match rest with
    | c :: more =>
      if isExponentMark c then
        let (negative, more) := readExponentSign (more.dropWhile (· = '_'))
        (true, negative, more.takeWhile inNumber, more.dropWhile inNumber)
      else (false, false, [], rest)
    | [] => (false, false, [], [])
  let last := if mark then exponent.getLast? else if point then fraction.getLast? else none
  if !point && !mark then (ofInt 10 whole).map fun token => (token, rest)
  else if last = some '_' ∨ (mark ∧ (digitsOnly exponent).isEmpty) then
    .error (.syntaxError "invalid float")
  else .ok (ofFloat whole fraction negative exponent, rest)

/-- A number at the head of the text. -/
def readNumber : List Char → Except Failure (Token × List Char)
  | '0' :: c :: rest =>
    if c = 'x' ∨ c = 'X' then readRadix 16 rest
    else if c = 'o' ∨ c = 'O' then readRadix 8 rest
    else if c = 'b' ∨ c = 'B' then readRadix 2 rest
    else readDecimal ('0' :: c :: rest)
  | cs => readDecimal cs

/-! ## Code between markers -/

/-- The end of code: of an output, of a block, or of the text of a lone expression. -/
inductive Closer where
  | output
  | block
  | endOfText
  deriving DecidableEq, Repr

/-- The two characters that close code. -/
def Closer.mark : Closer → List Char
  | .block => ['%', '\x7d']
  | _ => ['\x7d', '\x7d']

/-- The text behind a closing mark at its head, and whether the mark removes blanks behind it. -/
def Closer.passed? (closer : Closer) (cs : List Char) : Option (List Char × Bool) :=
  let mark := closer.mark
  match cs with
  | '-' :: rest => if mark.isPrefixOf rest then some (rest.drop 2, true) else none
  | '+' :: rest => if mark.isPrefixOf rest then some (rest.drop 2, false) else none
  | cs => if mark.isPrefixOf cs then some (cs.drop 2, false) else none

/-- Code that was read: its tokens, the text behind it, and whether blanks there are removed. -/
structure Code where
  tokens : List Token
  rest : List Char
  removeBlanks : Bool

/-- The code with a token in front. -/
def Code.cons (token : Token) (code : Code) : Code := { code with tokens := token :: code.tokens }

/-- The tokens of code up to its end; a closing mark counts only outside of brackets. -/
def readCode (closer : Closer) : Nat → Int → List Char → Except Failure Code
  | 0, _, _ => .error (.syntaxError "unexpected end of input")
  | _ + 1, _, [] =>
    if closer = .endOfText then .ok ⟨[], [], false⟩
    else .error (.syntaxError "unexpected end of input")
  | fuel + 1, nested, c :: rest =>
    if isSpace c then readCode closer fuel nested rest
    else
      match if nested = 0 then closer.passed? (c :: rest) else none with
      | some (rest, removeBlanks) =>
        if closer = .endOfText then .error (.syntaxError "unexpected end of variable block")
        else .ok ⟨[], rest, removeBlanks⟩
      | none =>
        if (c :: rest).take 2 ∈ doubles then
          (readCode closer fuel nested (rest.drop 1)).map
            (.cons (.symbol (String.ofList ((c :: rest).take 2))))
        else if c = '"' ∨ c = '\'' then
          match readString c (rest.length + 1) rest with
          | .error e => .error e
          | .ok (s, rest) =>
            (readCode closer fuel nested rest).map (.cons (.str (String.ofList s)))
        else if c ∈ singles then
          (readCode closer fuel (nested + nesting c) rest).map
            (.cons (.symbol (String.ofList [c])))
        else if c.isDigit then
          match readNumber (c :: rest) with
          | .error e => .error e
          | .ok (token, rest) => (readCode closer fuel nested rest).map (.cons token)
        else if startsName c then
          (readCode closer fuel nested (rest.dropWhile inName)).map
            (.cons (.name (String.ofList (c :: rest.takeWhile inName))))
        else .error (.syntaxError "unexpected character")

/-! ## Text and markers -/

/-- What a marker opens. -/
inductive Marker where
  | output
  | block
  | comment
  deriving DecidableEq, Repr

/-- The marker that the character behind an opening brace makes. -/
def marker? : Char → Option Marker
  | '\x7b' => some .output
  | '%' => some .block
  | '#' => some .comment
  | _ => none

/-- The text before the first marker, and the marker with the text behind it. -/
def untilMarker : List Char → List Char × Option (Marker × List Char)
  | '\x7b' :: c :: rest =>
    match marker? c with
    | some marker => ([], some (marker, rest))
    | none =>
      let (lead, found) := untilMarker (c :: rest)
      ('\x7b' :: lead, found)
  | c :: rest =>
    let (lead, found) := untilMarker rest
    (c :: lead, found)
  | [] => ([], none)

/-- A sign at the head of the text: whether it removes blanks, and the text behind it. -/
def readSign : List Char → Bool × List Char
  | '-' :: rest => (true, rest)
  | '+' :: rest => (false, rest)
  | rest => (false, rest)

/-- The text behind a block that holds only this word; whether the block removes blanks behind. -/
def passWord? (word : List Char) (cs : List Char) : Option (Bool × List Char) :=
  let cs := cs.dropWhile isSpace
  if word.isPrefixOf cs then
    let (remove, cs) := readSign ((cs.drop word.length).dropWhile isSpace)
    if Closer.block.mark.isPrefixOf cs then some (remove, cs.drop 2) else none
  else none

/-- The text of a comment's inside up to its end: what is behind, and whether blanks there are
removed. -/
def skipComment : List Char → Option (Bool × List Char)
  | '-' :: '#' :: '\x7d' :: rest => some (true, rest)
  | '#' :: '\x7d' :: rest => some (false, rest)
  | _ :: rest => skipComment rest
  | [] => none

/-- What ends a raw block. -/
structure RawEnd where
  body : List Char
  /-- Whether blanks at the end of the body, and behind the block, are removed. -/
  removeInside : Bool
  removeBehind : Bool
  rest : List Char

/-- The body of a raw block up to the block that ends it. -/
def readRaw : List Char → Option RawEnd
  | [] => none
  | c :: rest =>
    let further := (readRaw rest).map fun found => { found with body := c :: found.body }
    match c, rest with
    | '\x7b', '%' :: inside =>
      let (removeInside, inside) := readSign inside
      match passWord? "endraw".toList inside with
      | some (removeBehind, rest) => some ⟨[], removeInside, removeBehind, rest⟩
      | none => further
    | _, _ => further

/-- A text token, unless the text is empty. -/
def ofText (cs : List Char) : List Token :=
  if cs.isEmpty then [] else [.text (String.ofList cs)]

/-- The tokens of a template from a place outside of all markers. -/
def scan : Nat → (removeBlanks : Bool) → List Char → Except Failure (List Token)
  | 0, _, _ => .error (.syntaxError "unexpected end of input")
  | fuel + 1, removeBlanks, cs =>
    let cs := if removeBlanks then cs.dropWhile Text.isBlank else cs
    match untilMarker cs with
    | (lead, none) => .ok (ofText lead)
    | (lead, some (marker, inside)) =>
      let (removeLead, inside) := readSign inside
      let lead := ofText (if removeLead then Text.trimRight lead else lead)
      let onward (tokens : List Token) (removeBlanks : Bool) (rest : List Char) :=
        (scan fuel removeBlanks rest).map fun more => lead ++ tokens ++ more
      let code (opening closing : Token) (closer : Closer) :=
        match readCode closer (inside.length + 1) 0 inside with
        | .error e => .error e
        | .ok found => onward (opening :: (found.tokens ++ [closing])) found.removeBlanks found.rest
      match marker with
      | .comment =>
        match skipComment inside with
        | some (removeBlanks, rest) => onward [] removeBlanks rest
        | none => .error (.syntaxError "unexpected end of comment")
      | .output => code .openOutput .closeOutput .output
      | .block =>
        match passWord? "raw".toList inside with
        | none => code .openBlock .closeBlock .block
        | some (removeStart, rest) =>
          match readRaw rest with
          | none => .error (.syntaxError "unexpected end of raw block")
          | some raw =>
            let body := if removeStart then raw.body.dropWhile Text.isBlank else raw.body
            let body := if raw.removeInside then Text.trimRight body else body
            onward (ofText body) raw.removeBehind raw.rest

/-- The text without one line break at its end. -/
def dropLastBreak (cs : List Char) : List Char :=
  let drop (c : Char) (cs : List Char) : List Char :=
    if cs.getLast? = some c then cs.dropLast else cs
  drop '\r' (drop '\n' cs)

/-- The tokens of a template. -/
def ofTemplate (source : String) : Except Failure (List Token) :=
  let cs := dropLastBreak source.toList
  scan (cs.length + 1) false cs

/-- The tokens of an expression. -/
def ofExpression (source : String) : Except Failure (List Token) :=
  let cs := source.toList
  (readCode .endOfText (cs.length + 1) 0 cs).map (·.tokens)

end Token

end DialogueFlow.Template
