/-
  Written strings are read as they were. `readString?_escape`: an escaped character is read as that
  character; so is a whole string by `readString?_written`.
-/
import DialogueFlow.Json.Parser
import DialogueFlow.Json.Printer
import Mathlib.Tactic.Common

namespace DialogueFlow.Json

theorem hexValue?_hexDigit {n : Nat} (h : n < 16) : hexValue? (hexDigit n) = some n := by
  have hall : ∀ n : Fin 16, hexValue? (hexDigit n) = some n.val := by decide
  exact hall ⟨n, h⟩

/-- A control character in its escaped form. -/
theorem readPoint?_control {c : Char} (h : c.toNat < 0x20) (rest : List Char) :
    readPoint? ('0' :: '0' :: hexDigit (c.toNat / 16) :: hexDigit (c.toNat % 16) :: rest) =
      some (c, rest) := by
  have hzero : hexValue? '0' = some 0 := by decide
  have hhigh : hexValue? (hexDigit (c.toNat / 16)) = some (c.toNat / 16) :=
    hexValue?_hexDigit (by omega)
  have hlow : hexValue? (hexDigit (c.toNat % 16)) = some (c.toNat % 16) :=
    hexValue?_hexDigit (by omega)
  have hunit :
      readUnit? ('0' :: '0' :: hexDigit (c.toNat / 16) :: hexDigit (c.toNat % 16) :: rest) =
        some (c.toNat, rest) := by
    have hvalue : ((0 * 16 + 0) * 16 + c.toNat / 16) * 16 + c.toNat % 16 = c.toNat := by omega
    simp only [readUnit?, hzero, hhigh, hlow, hvalue]
  have hplain : c.toNat < 0xD800 ∨ 0xE000 ≤ c.toNat := Or.inl (by omega)
  simp only [readPoint?, hunit, if_pos hplain, Char.ofNat_toNat]

theorem readString?_plain {c : Char} (hquote : c ≠ '"') (hslash : c ≠ '\\')
    (hcontrol : ¬ c.toNat < 0x20) (fuel : Nat) (rest : List Char) :
    readString? (fuel + 1) (c :: rest) =
      (readString? fuel rest).map fun found => (c :: found.1, found.2) := by
  rw [readString?]
  · rw [if_neg (by simp [hslash, hcontrol])]
  · exact fun h => absurd h hquote
  · exact fun _ h => absurd h hslash
  · exact fun _ _ h => absurd h hslash

/-- An escaped character is read as that character. -/
theorem readString?_escape (c : Char) (fuel : Nat) (rest : List Char) :
    readString? (fuel + 1) (escapeChar c ++ rest) =
      (readString? fuel rest).map fun found => (c :: found.1, found.2) := by
  unfold escapeChar
  split
  case h_8 hquote hslash _ _ _ _ _ =>
    by_cases hcontrol : c.toNat < 0x20
    · rw [if_pos hcontrol]
      simp only [List.cons_append, List.nil_append, readString?, readPoint?_control hcontrol]
    · rw [if_neg hcontrol]
      exact readString?_plain hquote hslash hcontrol fuel rest
  all_goals rfl

/-- An escaped string is read up to the quote that closes it. -/
theorem readString?_written (cs : List Char) {fuel : Nat} (h : cs.length < fuel)
    (rest : List Char) :
    readString? fuel (cs.flatMap escapeChar ++ '"' :: rest) = some (cs, rest) := by
  induction cs generalizing fuel with
  | nil =>
    obtain ⟨fuel, rfl⟩ : ∃ n, fuel = n + 1 := ⟨fuel - 1, by omega⟩
    rfl
  | cons c cs ih =>
    rw [List.length_cons] at h
    obtain ⟨fuel, rfl⟩ : ∃ n, fuel = n + 1 := ⟨fuel - 1, by omega⟩
    rw [List.flatMap_cons, List.append_assoc, readString?_escape, ih (by omega)]
    rfl

theorem length_escapeChar_pos (c : Char) : 0 < (escapeChar c).length := by
  unfold escapeChar
  split
  case h_8 => split <;> simp
  all_goals simp

theorem length_le_escaped (cs : List Char) : cs.length ≤ (cs.flatMap escapeChar).length := by
  induction cs with
  | nil => exact Nat.le_refl 0
  | cons c cs ih =>
    have hc := length_escapeChar_pos c
    rw [List.flatMap_cons, List.length_append, List.length_cons]
    omega

/-- A written string is read with the rounds that readers take. -/
theorem readString?_quoted (s : String) (rest : List Char) :
    let cs := s.toList.flatMap escapeChar ++ '"' :: rest
    readString? (cs.length + 1) cs = some (s.toList, rest) := by
  refine readString?_written s.toList ?_ rest
  have hlength := length_le_escaped s.toList
  rw [List.length_append]
  omega

/-! ## Blanks -/

theorem skipSpace_cons {c : Char} (h : isSpace c = false) (rest : List Char) :
    skipSpace (c :: rest) = c :: rest := List.dropWhile_cons_of_neg (by simp [h])

theorem skipSpace_blank {c : Char} (h : isSpace c = true) (rest : List Char) :
    skipSpace (c :: rest) = skipSpace rest := List.dropWhile_cons_of_pos h

theorem skipSpace_newLine (level : Nat) (rest : List Char) :
    skipSpace (newLine level ++ rest) = skipSpace rest := by
  rw [newLine, List.cons_append, skipSpace_blank rfl]
  induction 2 * level with
  | zero => rfl
  | succ n ih => rw [List.replicate_succ, List.cons_append, skipSpace_blank rfl, ih]

theorem writeString_append (s : String) (rest : List Char) :
    writeString s ++ rest = '"' :: (s.toList.flatMap escapeChar ++ '"' :: rest) := by
  simp [writeString]

/-- The name of a field is read with the colon behind it. -/
theorem readName?_written (name : String) (rest : List Char) :
    readName? (writeString name ++ ':' :: rest) = some (name, rest) := by
  have hname := readString?_quoted name (':' :: rest)
  rw [writeString_append]
  unfold readName?
  rw [skipSpace_cons rfl]
  simp only [hname, skipSpace_cons (show isSpace ':' = false from rfl), String.ofList_toList]

end DialogueFlow.Json
