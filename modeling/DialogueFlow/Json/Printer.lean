/-
  The written form of JSON values: compact, and indented by two spaces a level. Fields are written
  in the order in which the object lists them.
-/
import DialogueFlow.Json.Basic
import DialogueFlow.Decimal.Layout

namespace DialogueFlow.Json

/-- Numbers are positional from `0.00001` to below `10 ^ 16`, and otherwise carry a signed
exponent. -/
def numberLayout : Decimal.Layout where
  positional := fun exponent => -5 ≤ exponent && exponent ≤ 15
  plusSign := true
  tie := .even

/-- One lower-case hexadecimal digit. -/
def hexDigit (n : Nat) : Char := if n < 10 then Char.ofNat (48 + n) else Char.ofNat (87 + n)

/-- One character inside a JSON string: only quotes, backslashes and controls are escaped. -/
def escapeChar (c : Char) : List Char :=
  match c with
  | '"' => ['\\', '"']
  | '\\' => ['\\', '\\']
  | '\x08' => ['\\', 'b']
  | '\x0c' => ['\\', 'f']
  | '\n' => ['\\', 'n']
  | '\r' => ['\\', 'r']
  | '\t' => ['\\', 't']
  | c =>
    if c.toNat < 0x20 then ['\\', 'u', '0', '0', hexDigit (c.toNat / 16), hexDigit (c.toNat % 16)]
    else [c]

/-- A JSON string. -/
def writeString (s : String) : List Char := '"' :: (s.toList.flatMap escapeChar ++ ['"'])

/-- A whole number. -/
def writeInt (n : Int) : List Char :=
  if n < 0 then '-' :: Decimal.digitsOf n.natAbs else Decimal.digitsOf n.natAbs

/-- A floating-point number; what is no finite number is written as null. -/
def writeFloat (x : Float) : List Char :=
  if x.isFinite then numberLayout.render x else ['n', 'u', 'l', 'l']

/-- A value without parts. -/
def writeAtom : Json → List Char
  | .null => ['n', 'u', 'l', 'l']
  | .bool true => ['t', 'r', 'u', 'e']
  | .bool false => ['f', 'a', 'l', 's', 'e']
  | .int n => writeInt n
  | .float x => writeFloat x
  | .str s => writeString s
  | .arr _ => ['[', ']']
  | .obj _ => ['\x7b', '\x7d']

mutual

/-- A value on one line without spaces. -/
def compact : Json → List Char
  | .arr (item :: rest) => '[' :: (item.compact ++ compactItems rest ++ [']'])
  | .obj ((name, value) :: rest) =>
    '\x7b' :: (writeString name ++ ':' :: value.compact ++ compactFields rest ++ ['\x7d'])
  | value => value.writeAtom

/-- The items after the first, each behind a comma. -/
def compactItems : List Json → List Char
  | [] => []
  | item :: rest => ',' :: (item.compact ++ compactItems rest)

/-- The fields after the first, each behind a comma. -/
def compactFields : List (String × Json) → List Char
  | [] => []
  | (name, value) :: rest =>
    ',' :: (writeString name ++ ':' :: value.compact ++ compactFields rest)

end

/-- A line break and the indentation of a level. -/
def newLine (level : Nat) : List Char := '\n' :: List.replicate (2 * level) ' '

mutual

/-- A value over several lines, its parts one level deeper than `level`. -/
def indented (level : Nat) : Json → List Char
  | .arr (item :: rest) =>
    '[' :: (newLine (level + 1) ++ item.indented (level + 1) ++ indentedItems (level + 1) rest ++
      newLine level ++ [']'])
  | .obj ((name, value) :: rest) =>
    '\x7b' :: (newLine (level + 1) ++ writeString name ++ ':' :: ' ' :: value.indented (level + 1) ++
      indentedFields (level + 1) rest ++ newLine level ++ ['\x7d'])
  | value => value.writeAtom

/-- The items after the first, each behind a comma and on a line of its own. -/
def indentedItems (level : Nat) : List Json → List Char
  | [] => []
  | item :: rest => ',' :: (newLine level ++ item.indented level ++ indentedItems level rest)

/-- The fields after the first, each behind a comma and on a line of its own. -/
def indentedFields (level : Nat) : List (String × Json) → List Char
  | [] => []
  | (name, value) :: rest =>
    ',' :: (newLine level ++ writeString name ++ ':' :: ' ' :: value.indented level ++
      indentedFields level rest)

end

/-- The compact text of a value. -/
def print (value : Json) : String := String.ofList value.compact

/-- The indented text of a value. -/
def pretty (value : Json) : String := String.ofList (value.indented 0)

end DialogueFlow.Json
