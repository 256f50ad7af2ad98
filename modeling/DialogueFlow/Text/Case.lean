/-
  Full upper and lower case of texts. A capital sigma that ends a word becomes the final sigma.
-/
import DialogueFlow.Text.CaseData

namespace DialogueFlow.Text

/-- The characters that `point` becomes under a table of runs and of several-character mappings. -/
def mapCase (runs : List CaseRun) (several : List (Nat × List Nat)) (c : Char) : List Char :=
  match several.lookup c.toNat with
  | some points => points.map Char.ofNat
  | none =>
    match runs.find? (·.holds c.toNat) with
    | some run => [Char.ofNat (c.toNat + run.shift).toNat]
    | none => [c]

/-- The upper case of one character. -/
def upperChar (c : Char) : List Char :=
  if c.toNat < 0x80 then [c.toUpper] else mapCase upperRuns upperSeveral c

/-- The lower case of one character, whatever stands around it. -/
def lowerChar (c : Char) : List Char :=
  if c.toNat < 0x80 then [c.toLower] else mapCase lowerRuns lowerSeveral c

/-- The first character that is not case-ignorable is cased. -/
def meetsCased : List Char → Bool
  | [] => false
  | c :: rest =>
    if inRanges caseIgnorableRanges c.toNat then meetsCased rest
    else inRanges casedRanges c.toNat

/-- Lower case with the text already passed, nearest character first. -/
def lowerFrom (passed : List Char) : List Char → List Char
  | [] => []
  | c :: rest =>
    let mapped :=
      if c = 'Σ' then [if meetsCased passed && !meetsCased rest then 'ς' else 'σ']
      else lowerChar c
    mapped ++ lowerFrom (c :: passed) rest

/-- The upper case of a text. -/
def upperCase (s : String) : String := String.ofList (s.toList.flatMap upperChar)

/-- The lower case of a text. -/
def lowerCase (s : String) : String := String.ofList (lowerFrom [] s.toList)

example : upperCase "straße" = "STRASSE" := by decide +kernel

example : lowerCase "ΑΣ ΣΑ" = "ας σα" := by decide +kernel

end DialogueFlow.Text
