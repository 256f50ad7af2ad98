/-
  Numbers, truth values, dates and times of TOML. Whole numbers have 128 bits, signed or not.
  Infinities and not-a-number become null, and a date or time becomes an object with its text.
-/
import DialogueFlow.Json.Parser

namespace DialogueFlow.Toml

/-! ## Numbers -/

/-- Digits with underscores between them, without the underscores. -/
def digits? (isDigit : Char → Bool) : List Char → Option (List Char)
  | [] => none
  | [c] => if isDigit c then some [c] else none
  | c :: '_' :: rest => if isDigit c then (digits? isDigit rest).map (c :: ·) else none
  | c :: rest => if isDigit c then (digits? isDigit rest).map (c :: ·) else none

/-- Decimal digits that do not start with a zero, or a lone zero. -/
def plainDigits? (cs : List Char) : Option (List Char) :=
  match digits? Char.isDigit cs with
  | some ('0' :: _ :: _) => none
  | found => found

/-- The number of digits in a base. -/
def valueOf (base : Nat) (digits : List Char) : Nat :=
  digits.foldl (fun n c => n * base + (Json.hexValue? c).getD 0) 0

/-- A whole number that fits. -/
def ofInt? (n : Int) : Option Json :=
  if -(2 ^ 127) ≤ n ∧ n < 2 ^ 128 then some (.int n) else none

/-- A whole number in a base other than ten. -/
def ofRadix? (base : Nat) (cs : List Char) : Option Json :=
  match digits? (fun c => (Json.hexValue? c).any (· < base)) cs with
  | some digits => ofInt? (valueOf base digits)
  | none => none

/-- A sign, if there is one, and the text behind it. -/
def readSign : List Char → Bool × List Char
  | '-' :: rest => (true, rest)
  | '+' :: rest => (false, rest)
  | rest => (false, rest)

/-- A character of a run of digits. -/
def inDigits (c : Char) : Bool := c.isDigit || c = '_'

/-- The digits of an exponent and whether it is negative; none if the text is empty. -/
def exponent? : List Char → Option (Bool × List Char)
  | [] => some (false, ['0'])
  | mark :: rest =>
    if mark = 'e' ∨ mark = 'E' then
      let (negative, rest) := readSign rest
      (digits? Char.isDigit rest).map fun digits => (negative, digits)
    else none

/-- A number with a fraction or an exponent; one that is too large is refused. -/
def ofFloat? (negative : Bool) (cs : List Char) : Option Json := do
  let whole ← plainDigits? (cs.takeWhile inDigits)
  let rest := cs.dropWhile inDigits
  let (fraction, rest) ←
    match rest with
    | '.' :: rest =>
      (digits? Char.isDigit (rest.takeWhile inDigits)).map fun digits =>
        (digits, rest.dropWhile inDigits)
    | rest => some ([], rest)
  let (down, power) ← exponent? rest
  let power : Int := (valueOf 10 power : Nat)
  let scale := (if down then -power else power) - fraction.length
  let x := Float.ofScientific (valueOf 10 (whole ++ fraction)) (scale < 0) scale.natAbs
  if x.isInf then none else some (.float (if negative then -x else x))

/-- A number in base ten, or an infinity or not-a-number. -/
def ofDecimal? (cs : List Char) : Option Json :=
  let (negative, rest) := readSign cs
  if rest = ['i', 'n', 'f'] ∨ rest = ['n', 'a', 'n'] then some .null
  else
    match plainDigits? rest with
    | some digits =>
      ofInt? (if negative then -(valueOf 10 digits : Nat) else (valueOf 10 digits : Nat))
    | none => ofFloat? negative rest

/-- A number. -/
def ofNumber? : List Char → Option Json
  | '0' :: 'x' :: rest => ofRadix? 16 rest
  | '0' :: 'o' :: rest => ofRadix? 8 rest
  | '0' :: 'b' :: rest => ofRadix? 2 rest
  | cs => ofDecimal? cs

/-! ## Dates and times -/

/-- A number of this many decimal digits. -/
def readDigits? : (count : Nat) → (value : Nat) → List Char → Option (Nat × List Char)
  | 0, value, cs => some (value, cs)
  | _ + 1, _, [] => none
  | count + 1, value, c :: rest =>
    if c.isDigit then readDigits? count (value * 10 + Decimal.digitValue c) rest else none

/-- A number of two digits up to a bound. -/
def readPair? (most : Nat) (cs : List Char) : Option (Nat × List Char) :=
  match readDigits? 2 0 cs with
  | some (n, rest) => if n ≤ most then some (n, rest) else none
  | none => none

/-- The text behind an expected character. -/
def pass? (wanted : Char) : List Char → Option (List Char)
  | c :: rest => if c = wanted then some rest else none
  | [] => none

/-- A year with a day more in February. -/
def isLeapYear (year : Nat) : Bool := year % 4 = 0 && year % 100 ≠ 0 || year % 400 = 0

/-- How many days a month has. -/
def daysIn (year month : Nat) : Nat :=
  if month = 2 then (if isLeapYear year then 29 else 28)
  else if month ∈ [4, 6, 9, 11] then 30
  else 31

/-- The text behind a date. -/
def passDate? (cs : List Char) : Option (List Char) := do
  let (year, rest) ← readDigits? 4 0 cs
  let rest ← pass? '-' rest
  let (month, rest) ← readPair? 12 rest
  let rest ← pass? '-' rest
  let (day, rest) ← readPair? (daysIn year month) rest
  if 0 < month ∧ 0 < day then some rest else none

/-- A fraction of a second with its point: nine digits at most and no zeros at the end; a fraction
of zero is left out. -/
def fractionText (digits : List Char) : List Char :=
  match ((digits.take 9).reverse.dropWhile (· = '0')).reverse with
  | [] => []
  | digits => '.' :: digits

/-- The written form of a time, and the text behind it; seconds that are left out are zero. -/
def readTime? (cs : List Char) : Option (List Char × List Char) := do
  let (_, rest) ← readPair? 23 cs
  let rest ← pass? ':' rest
  let (_, rest) ← readPair? 59 rest
  match rest with
  | ':' :: rest => do
    let (_, rest) ← readPair? 60 rest
    match rest with
    | '.' :: rest =>
      let digits := rest.takeWhile Char.isDigit
      if digits.isEmpty then none
      else return (cs.take 8 ++ fractionText digits, rest.dropWhile Char.isDigit)
    | rest => return (cs.take 8, rest)
  | rest => return (cs.take 5 ++ [':', '0', '0'], rest)

example : readTime? ['0', '7', ':', '3', '2'] =
    some (['0', '7', ':', '3', '2', ':', '0', '0'], []) := by decide +kernel

/-- The written form of an offset from universal time, which makes up the whole text. -/
def offset? : List Char → Option (List Char)
  | [] => some []
  | ['Z'] => some ['Z']
  | ['z'] => some ['Z']
  | sign :: rest =>
    if sign = '+' ∨ sign = '-' then do
      let (hours, behind) ← readPair? 23 rest
      let behind ← pass? ':' behind
      let (minutes, behind) ← readPair? 59 behind
      if behind.isEmpty then
        return (if hours = 0 ∧ minutes = 0 then '+' else sign) :: rest
      else none
    else none

/-- The written form of a date, a time, or a date with a time and perhaps an offset. -/
def dateTimeText? (cs : List Char) : Option (List Char) :=
  match passDate? cs with
  | none =>
    match readTime? cs with
    | some (time, []) => some time
    | _ => none
  | some [] => some cs
  | some (separator :: rest) =>
    if separator ∈ ['T', 't', ' '] then do
      let (time, rest) ← readTime? rest
      let offset ← offset? rest
      return cs.take 10 ++ 'T' :: time ++ offset
    else none

/-- The name of the field that holds the text of a date or time. -/
def dateTimeField : String := "$__toml_private_datetime"

/-! ## Words -/

/-- A character of a value that is neither quoted nor in brackets. -/
def inWord (c : Char) : Bool := c.isAlphanum || c ∈ ['+', '-', '_', '.', ':']

/-- The value that a word stands for. -/
def ofWord? (cs : List Char) : Option Json :=
  if cs = ['t', 'r', 'u', 'e'] then some (.bool true)
  else if cs = ['f', 'a', 'l', 's', 'e'] then some (.bool false)
  else
    match dateTimeText? cs with
    | some text => some (.obj [(dateTimeField, .str (String.ofList text))])
    | none => ofNumber? cs

/-- A word at the head of the text; a blank may stand between a date and its time. -/
def readWord (cs : List Char) : List Char × List Char :=
  let word := cs.takeWhile inWord
  let rest := cs.dropWhile inWord
  match passDate? word, rest with
  | some [], ' ' :: c :: more =>
    if c.isDigit then
      (word ++ ' ' :: (c :: more).takeWhile inWord, (c :: more).dropWhile inWord)
    else (word, rest)
  | _, _ => (word, rest)

end DialogueFlow.Toml
