/-
  Quoted texts as messages and nested template values show them: double quotes, short escapes for
  the usual controls, and the code point in braces for every other character without a glyph.
-/
import DialogueFlow.Text.Hidden

namespace DialogueFlow.Text

/-- Lower-case hexadecimal digits of a number, no leading zero. -/
def hexDigits (n : Nat) : List Char := Nat.toDigits 16 n

/-- One character inside double quotes. -/
def quoteChar (c : Char) : List Char :=
  match c with
  | '"' => ['\\', '"']
  | '\\' => ['\\', '\\']
  | '\n' => ['\\', 'n']
  | '\r' => ['\\', 'r']
  | '\t' => ['\\', 't']
  | '\x00' => ['\\', '0']
  | c => if isHidden c then ['\\', 'u', '\x7b'] ++ hexDigits c.toNat ++ ['\x7d'] else [c]

/-- A text in double quotes, every character without a glyph escaped. -/
def quoted (s : String) : String :=
  String.ofList ('"' :: (s.toList.flatMap quoteChar ++ ['"']))

example : quoted "a\"b\n" = "\"a\\\"b\\n\"" := by decide +kernel

end DialogueFlow.Text
