/-
  Numbers in a text. What follows a number does not change how it is read, as long as that starts
  like what follows values in a written text (`readNumberText?_append`).
-/
import DialogueFlow.Proofs.Json.Strings

namespace DialogueFlow.Json

/-- The text goes on as it does behind a value that was written. -/
inductive Delimited : List Char → Prop
  | comma (rest : List Char) : Delimited (',' :: rest)
  | newLine (rest : List Char) : Delimited ('\n' :: rest)

theorem digitsAndRest_append (cs : List Char) {rest : List Char} (h : Delimited rest) :
    digitsAndRest (cs ++ rest) = ((digitsAndRest cs).1, (digitsAndRest cs).2 ++ rest) := by
  have hhead : ∃ c more, rest = c :: more ∧ c.isDigit = false := by
    cases h with
    | comma more => exact ⟨',', more, rfl, rfl⟩
    | newLine more => exact ⟨'\n', more, rfl, rfl⟩
  obtain ⟨c, more, rfl, hc⟩ := hhead
  unfold digitsAndRest
  induction cs with
  | nil => simp [hc]
  | cons d cs ih =>
    rw [Prod.mk.injEq] at ih
    cases hd : d.isDigit with
    | true => simp [hd, ih.1, ih.2]
    | false => simp [hd]

/-- Unless more follows a zero, the whole part is all leading digits. -/
theorem readWhole?_digits {cs : List Char} (h : ∀ c rest, cs ≠ '0' :: c :: rest)
    (hdigits : (digitsAndRest cs).1 ≠ []) : readWhole? cs = some (digitsAndRest cs) := by
  unfold readWhole?
  split
  · exact absurd rfl (h _ _)
  · split
    · rename_i hnone
      rw [hnone] at hdigits
      exact absurd rfl hdigits
    · rfl

theorem readWhole?_append {cs whole left : List Char} (h : readWhole? cs = some (whole, left))
    {rest : List Char} (hrest : Delimited rest) :
    readWhole? (cs ++ rest) = some (whole, left ++ rest) := by
  unfold readWhole? at h
  split at h
  · rename_i c more
    split at h
    · cases h
    · rename_i hc
      cases h
      exact if_neg hc
  · rename_i hzero
    split at h
    · cases h
    · rename_i hdigits
      have hparts := Option.some.inj h
      have hwhole : (digitsAndRest cs).1 ≠ [] := fun hnil => hdigits _ (Prod.ext hnil rfl)
      cases cs with
      | nil => exact absurd rfl hwhole
      | cons d ds =>
        by_cases hd : d = '0'
        · -- a lone zero
          subst hd
          have hds : ds = [] := by
            cases ds with
            | nil => rfl
            | cons c more => exact absurd rfl (hzero c more)
          subst hds
          cases hparts
          cases hrest <;> rfl
        · have hmore : ∀ c more, (d :: ds) ++ rest ≠ '0' :: c :: more :=
            fun c more heq => hd (List.cons.inj heq).1
          rw [readWhole?_digits hmore (by rw [digitsAndRest_append _ hrest]; exact hwhole),
            digitsAndRest_append _ hrest, hparts]

theorem readFraction?_append {cs fraction left : List Char}
    (h : readFraction? cs = some (fraction, left)) {rest : List Char} (hrest : Delimited rest) :
    readFraction? (cs ++ rest) = some (fraction, left ++ rest) := by
  unfold readFraction? at h
  split at h
  · rename_i digits
    split at h
    · cases h
    · rename_i hdigits
      have hparts := Option.some.inj h
      rw [List.cons_append, readFraction?, digitsAndRest_append _ hrest, hparts]
      cases fraction with
      | nil => exact absurd hparts (hdigits _)
      | cons c more => rfl
  · rename_i hpoint
    cases h
    cases cs with
    | nil => cases hrest <;> rfl
    | cons c more =>
      rw [readFraction?]
      intro _ heq
      exact hpoint more (by rw [(List.cons.inj heq).1])

/-- The digits of an exponent behind its sign. -/
def signedDigits? (negative : Bool) (cs : List Char) : Option ((Bool × List Char) × List Char) :=
  match digitsAndRest cs with
  | ([], _) => none
  | (digits, rest) => some ((negative, digits), rest)

theorem signedDigits?_append {negative : Bool} {cs left : List Char}
    {exponent : Bool × List Char} (h : signedDigits? negative cs = some (exponent, left))
    {rest : List Char} (hrest : Delimited rest) :
    signedDigits? negative (cs ++ rest) = some (exponent, left ++ rest) := by
  unfold signedDigits? at h ⊢
  rw [digitsAndRest_append _ hrest]
  rcases hparts : digitsAndRest cs with ⟨digits, behind⟩
  rw [hparts] at h
  cases digits with
  | nil => cases h
  | cons c more =>
    cases h
    rfl

/-- An exponent without a sign. -/
theorem readSigned?_plain {c : Char} (hplus : c ≠ '+') (hminus : c ≠ '-') (behind : List Char) :
    readSigned? (c :: behind) = signedDigits? false (c :: behind) := by
  unfold readSigned?
  split
  rename_i hsign
  split at hsign
  · rename_i heq
    exact absurd (List.cons.inj heq).1 hplus
  · rename_i heq
    exact absurd (List.cons.inj heq).1 hminus
  · cases hsign
    rfl

theorem readSigned?_append {cs left : List Char} {exponent : Bool × List Char}
    (h : readSigned? cs = some (exponent, left)) {rest : List Char} (hrest : Delimited rest) :
    readSigned? (cs ++ rest) = some (exponent, left ++ rest) := by
  cases cs with
  | nil => cases h
  | cons c more =>
    by_cases hplus : c = '+'
    · subst hplus
      exact @signedDigits?_append false more left exponent h rest hrest
    · by_cases hminus : c = '-'
      · subst hminus
        exact @signedDigits?_append true more left exponent h rest hrest
      · rw [readSigned?_plain hplus hminus] at h
        rw [List.cons_append, readSigned?_plain hplus hminus]
        exact signedDigits?_append h hrest

theorem readExponent?_append {cs left : List Char} {exponent : Option (Bool × List Char)}
    (h : readExponent? cs = some (exponent, left)) {rest : List Char} (hrest : Delimited rest) :
    readExponent? (cs ++ rest) = some (exponent, left ++ rest) := by
  cases cs with
  | nil =>
    cases h
    cases hrest <;> rfl
  | cons c more =>
    rw [readExponent?] at h
    rw [List.cons_append, readExponent?]
    split at h
    · rename_i hc
      obtain ⟨⟨signed, left'⟩, hsigned, heq⟩ := Option.map_eq_some_iff.mp h
      cases heq
      rw [if_pos hc, readSigned?_append hsigned hrest]
      rfl
    · rename_i hc
      cases h
      rw [if_neg hc]
      rfl

/-- A number without its sign. -/
def readUnsigned? (negative : Bool) (cs : List Char) : Option (NumberText × List Char) := do
  let (whole, cs) ← readWhole? cs
  let (fraction, cs) ← readFraction? cs
  let (exponent, cs) ← readExponent? cs
  return (⟨negative, whole, fraction, exponent⟩, cs)

theorem readNumberText?_plain {c : Char} (h : c ≠ '-') (cs : List Char) :
    readNumberText? (c :: cs) = readUnsigned? false (c :: cs) := by
  unfold readNumberText?
  split
  rename_i hsign
  split at hsign
  · rename_i heq
    exact absurd (List.cons.inj heq).1 h
  · cases hsign
    rfl

theorem readUnsigned?_append {negative : Bool} {cs left : List Char} {number : NumberText}
    (h : readUnsigned? negative cs = some (number, left)) {rest : List Char}
    (hrest : Delimited rest) :
    readUnsigned? negative (cs ++ rest) = some (number, left ++ rest) := by
  unfold readUnsigned? at h ⊢
  simp only [Option.bind_eq_bind, Option.bind_eq_some_iff] at h
  obtain ⟨⟨whole, behind⟩, hwhole, ⟨fraction, behind'⟩, hfraction, ⟨exponent, behind''⟩,
    hexponent, hnumber⟩ := h
  cases hnumber
  simp only [Option.bind_eq_bind, readWhole?_append hwhole hrest,
    readFraction?_append hfraction hrest, readExponent?_append hexponent hrest, Option.bind_some]
  rfl

/-- What follows a number does not change how it is read. -/
theorem readNumberText?_append {cs left : List Char} {number : NumberText}
    (h : readNumberText? cs = some (number, left)) {rest : List Char} (hrest : Delimited rest) :
    readNumberText? (cs ++ rest) = some (number, left ++ rest) := by
  cases cs with
  | nil => cases h
  | cons c more =>
    by_cases hc : c = '-'
    · subst hc
      exact readUnsigned?_append h hrest
    · rw [readNumberText?_plain hc] at h
      rw [List.cons_append, readNumberText?_plain hc]
      exact readUnsigned?_append h hrest

/-- A number starts with a minus sign or with a digit. -/
theorem head_of_readNumberText? {cs left : List Char} {number : NumberText}
    (h : readNumberText? cs = some (number, left)) :
    ∃ c more, cs = c :: more ∧ (c = '-' ∨ c.isDigit = true) := by
  cases cs with
  | nil => cases h
  | cons c more =>
    refine ⟨c, more, rfl, ?_⟩
    by_cases hc : c = '-'
    · exact Or.inl hc
    · rw [readNumberText?_plain hc] at h
      obtain ⟨⟨whole, behind⟩, hwhole, -⟩ := Option.bind_eq_some_iff.mp h
      refine Or.inr ?_
      by_contra hdigit
      have hzero : ∀ d rest, c :: more ≠ '0' :: d :: rest := by
        intro d rest heq
        rw [(List.cons.inj heq).1] at hdigit
        exact hdigit rfl
      unfold readWhole? at hwhole
      split at hwhole
      · rename_i heq
        exact hzero _ _ heq
      · simp [digitsAndRest, hdigit] at hwhole

end DialogueFlow.Json
