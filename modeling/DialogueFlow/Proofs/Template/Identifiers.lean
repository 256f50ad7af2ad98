/-
  The names in code. Every name among the tokens of code is an identifier (`readCode_names`), and
  identifiers with blanks between them are read as names (`readCode_words`).
-/
import DialogueFlow.Template.Token
import Mathlib.Tactic.Common

namespace DialogueFlow.Template

/-! ## Names of tokens -/

/-- The text is a letter or underscore with letters, digits and underscores behind. -/
def Token.isIdentifier (text : String) : Bool :=
  match text.toList with
  | [] => false
  | c :: rest => startsName c && rest.all inName

namespace Token

theorem ofInt_ne_name {base : Nat} {written : List Char} {token : Token}
    (h : ofInt base written = .ok token) (s : String) : token ≠ .name s := by
  unfold ofInt at h
  split at h
  · cases h
  · split at h
    · split at h
      · cases h
        nofun
      · cases h
    · cases h

theorem map_ofInt_ne_name {base : Nat} {written rest : List Char} {found : Token × List Char}
    (h : (ofInt base written).map (fun token => (token, rest)) = .ok found) (s : String) :
    found.1 ≠ .name s := by
  cases hint : ofInt base written with
  | error _ =>
    rw [hint] at h
    cases h
  | ok token =>
    rw [hint] at h
    cases h
    exact ofInt_ne_name hint s

theorem readDecimal_ne_name {cs : List Char} {found : Token × List Char}
    (h : readDecimal cs = .ok found) (s : String) : found.1 ≠ .name s := by
  unfold readDecimal at h
  extract_lets at h
  split at h
  split at h
  extract_lets at h
  split at h
  · exact map_ofInt_ne_name h s
  · split at h
    · cases h
    · cases h
      nofun

/-- A number is no name. -/
theorem readNumber_ne_name {cs : List Char} {found : Token × List Char}
    (h : readNumber cs = .ok found) (s : String) : found.1 ≠ .name s := by
  unfold readNumber at h
  split at h
  · split at h
    · exact map_ofInt_ne_name h s
    · split at h
      · exact map_ofInt_ne_name h s
      · split at h
        · exact map_ofInt_ne_name h s
        · exact readDecimal_ne_name h s
  · exact readDecimal_ne_name h s

/-- Every name among the tokens is an identifier. -/
def Identifiers (tokens : List Token) : Prop := ∀ s, .name s ∈ tokens → isIdentifier s = true

theorem Identifiers.cons {token : Token} {tokens : List Token} (h : Identifiers tokens)
    (htoken : ∀ s, token = .name s → isIdentifier s = true) : Identifiers (token :: tokens) := by
  intro s hs
  rcases List.mem_cons.mp hs with hs | hs
  · exact htoken s hs.symm
  · exact h s hs

theorem isIdentifier_takeWhile {c : Char} (h : startsName c = true) (rest : List Char) :
    isIdentifier (String.ofList (c :: rest.takeWhile inName)) = true := by
  unfold isIdentifier
  rw [String.toList_ofList]
  dsimp only
  rw [h, Bool.true_and]
  exact List.all_takeWhile

theorem identifiers_map {token : Token} {read : Except Failure Code} {code : Code}
    (hread : ∀ code, read = .ok code → Identifiers code.tokens)
    (htoken : ∀ s, token = .name s → isIdentifier s = true)
    (h : read.map (.cons token) = .ok code) : Identifiers code.tokens := by
  cases read with
  | error _ => cases h
  | ok more =>
    cases h
    exact (hread more rfl).cons htoken

/-- The names in code are identifiers. -/
theorem readCode_names {closer : Closer} {fuel : Nat} {nested : Int} {cs : List Char} {code : Code}
    (h : readCode closer fuel nested cs = .ok code) : Identifiers code.tokens := by
  induction fuel generalizing nested cs code with
  | zero => cases h
  | succ fuel ih =>
    cases cs with
    | nil =>
      rw [readCode] at h
      split at h
      · cases h
        nofun
      · cases h
    | cons c rest =>
      rw [readCode] at h
      split at h
      · exact ih h
      split at h
      · split at h
        · cases h
        · cases h
          nofun
      split at h
      · exact identifiers_map (fun _ => ih) (by rintro _ ⟨⟩) h
      split at h
      · split at h
        · cases h
        · exact identifiers_map (fun _ => ih) (by rintro _ ⟨⟩) h
      split at h
      · exact identifiers_map (fun _ => ih) (by rintro _ ⟨⟩) h
      split at h
      · split at h
        · cases h
        · rename_i hnumber
          exact identifiers_map (fun _ => ih)
            (fun s hs => absurd hs (readNumber_ne_name hnumber s)) h
      split at h
      · rename_i hstarts
        refine identifiers_map (fun _ => ih) (fun s hs => ?_) h
        cases hs
        exact isIdentifier_takeWhile hstarts rest
      · cases h

end Token

/-! ## Words -/

namespace Token

theorem startsName_ne {c d : Char} (h : startsName c = true) (hd : startsName d = false) :
    c ≠ d := by
  rintro rfl
  rw [h] at hd
  cases hd

theorem not_isDigit_of_startsName {c : Char} (h : startsName c = true) : c.isDigit = false := by
  by_contra hdigit
  rw [Bool.not_eq_false] at hdigit
  have hlast : c.val ≤ '9'.val := of_decide_eq_true (Bool.and_eq_true_iff.mp hdigit).2
  have hfirst : '9'.val < c.val := by
    rcases Bool.or_eq_true_iff.mp h with hletter | hunderscore
    · rcases Bool.or_eq_true_iff.mp hletter with hupper | hlower
      · have hlarge : 'A'.val ≤ c.val := (of_decide_eq_true hupper).1
        exact UInt32.lt_of_lt_of_le (by decide) hlarge
      · have hsmall : 'a'.val ≤ c.val := of_decide_eq_true (Bool.and_eq_true_iff.mp hlower).1
        exact UInt32.lt_of_lt_of_le (by decide) hsmall
    · rw [of_decide_eq_true hunderscore]
      decide
  exact UInt32.not_le.mpr hfirst hlast

/-- A character that starts a name starts nothing else. -/
theorem startsName_only {c : Char} (h : startsName c = true) :
    isSpace c = false ∧ (∀ rest, Closer.endOfText.passed? (c :: rest) = none) ∧
      (∀ rest, (c :: rest).take 2 ∉ doubles) ∧ c ≠ '"' ∧ c ≠ '\'' ∧ c ∉ singles := by
  have hdoubles : doubles.all (fun double => double.head?.all (!startsName ·)) = true := by decide
  have hsingles : singles.all (!startsName ·) = true := by decide
  simp only [List.all_eq_true, Option.all_eq_true, Bool.not_eq_true'] at hdoubles hsingles
  refine ⟨?_, fun rest => ?_, fun rest hmem => ?_, startsName_ne h rfl, startsName_ne h rfl,
    fun hmem => ?_⟩
  · have hspaces : ∀ d, startsName d = false → decide (c = d) = false :=
      fun d hd => decide_eq_false (startsName_ne h hd)
    rw [isSpace, hspaces ' ' rfl, hspaces '\t' rfl, hspaces '\n' rfl, hspaces '\r' rfl,
      hspaces '\x0c' rfl]
    rfl
  · have hbrace : '\x7d' ≠ c := (startsName_ne h rfl).symm
    have hminus : c ≠ '-' := startsName_ne h rfl
    have hplus : c ≠ '+' := startsName_ne h rfl
    simp [Closer.passed?, Closer.mark, hbrace, hminus, hplus]
  · exact absurd rfl (startsName_ne h (hdoubles _ hmem c rfl))
  · exact absurd rfl (startsName_ne h (hsingles _ hmem))

theorem takeWhile_append_stop {p : Char → Bool} {word rest : List Char} (hword : word.all p = true)
    (hrest : ∀ c ∈ rest.head?, p c = false) :
    (word ++ rest).takeWhile p = word ∧ (word ++ rest).dropWhile p = rest := by
  rw [List.all_eq_true] at hword
  rw [List.takeWhile_append_of_pos hword, List.dropWhile_append_of_pos hword]
  cases rest with
  | nil => simp
  | cons c rest =>
    have hc := hrest c rfl
    simp [hc]

theorem readCode_word {word : String} {rest : List Char} (hword : isIdentifier word = true)
    (hrest : ∀ c ∈ rest.head?, inName c = false) (fuel : Nat) (nested : Int) :
    readCode .endOfText (fuel + 1) nested (word.toList ++ rest) =
      (readCode .endOfText fuel nested rest).map (.cons (.name word)) := by
  unfold isIdentifier at hword
  split at hword
  · cases hword
  · rename_i c cs hcs
    rw [Bool.and_eq_true] at hword
    obtain ⟨hspace, hcloser, hdouble, hquote, happ, hsingle⟩ := startsName_only hword.1
    have hdigit := not_isDigit_of_startsName hword.1
    obtain ⟨htake, hdrop⟩ := takeWhile_append_stop hword.2 hrest
    rw [hcs, List.cons_append, readCode]
    simp only [hspace, hcloser, hdouble, hquote, happ, hsingle, hdigit, hword.1, htake, hdrop,
      ite_self, Bool.false_eq_true, if_false, or_self, if_true, ← hcs, String.ofList_toList]

theorem readCode_words {words : List String} (h : ∀ word ∈ words, isIdentifier word = true)
    (fuel : Nat) :
    readCode .endOfText (fuel + 2 * words.length + 1) 0
        ([' '].intercalate (words.map String.toList)) =
      .ok ⟨words.map .name, [], false⟩ := by
  induction words generalizing fuel with
  | nil => rfl
  | cons word rest ih =>
    rw [List.forall_mem_cons] at h
    cases rest with
    | nil =>
      have hstop : ∀ c ∈ ([] : List Char).head?, inName c = false := nofun
      have hread := readCode_word h.1 hstop (fuel + 2) 0
      simpa [readCode, Except.map, Code.cons] using hread
    | cons next rest =>
      rw [List.map_cons, List.map_cons, List.intercalate_cons_cons, ← List.map_cons,
        List.append_assoc]
      have hfuel : fuel + 2 * (word :: next :: rest).length + 1 =
          (fuel + 2 * (next :: rest).length + 1) + 1 + 1 := by
        simp only [List.length_cons]
        omega
      rw [hfuel, readCode_word h.1 (by rintro _ ⟨⟩; rfl), List.singleton_append, readCode,
        if_pos rfl, ih h.2]
      rfl

end Token

end DialogueFlow.Template
