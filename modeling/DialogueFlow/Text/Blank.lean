/-
  Blank characters (the Unicode property White_Space), trimming, and blank texts.
-/
import DialogueFlow.Text.Ranges

namespace DialogueFlow.Text

/-- The 25 code points of the property White_Space. -/
def blankRanges : List (Nat × Nat) :=
  [(0x09, 0x0D), (0x20, 0x20), (0x85, 0x85), (0xA0, 0xA0), (0x1680, 0x1680), (0x2000, 0x200A),
    (0x2028, 0x2029), (0x202F, 0x202F), (0x205F, 0x205F), (0x3000, 0x3000)]

/-- A white-space character of any script. -/
def isBlank (c : Char) : Bool := inRanges blankRanges c.toNat

/-- Drops blank characters at the end. -/
def trimRight (cs : List Char) : List Char := (cs.reverse.dropWhile isBlank).reverse

/-- Drops blank characters at both ends. -/
def trimChars (cs : List Char) : List Char := trimRight (cs.dropWhile isBlank)

/-- The text without blank characters at its ends. -/
def trim (s : String) : String := String.ofList (trimChars s.toList)

/-- A text that holds blank characters only; the empty text is one. -/
def isBlankText (s : String) : Bool := s.toList.all isBlank

end DialogueFlow.Text
