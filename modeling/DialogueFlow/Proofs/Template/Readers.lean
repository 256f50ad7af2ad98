/-
  The names in expressions. The readers put no name into an expression that is not among the tokens
  or that stands for a constant (`readersOver`), and the value of an expression depends only on the
  names in it (`Expression.Over.value_congr`). So what a text says of a document does not depend on
  the fields whose names are no variables (`holds_congr`).
-/
import DialogueFlow.Proofs.Template.Filled
import DialogueFlow.Proofs.Template.Identifiers

namespace DialogueFlow.Template

/-- Expressions can name a field of the document so: it is no constant. -/
def isVariable (name : String) : Bool :=
  Token.isIdentifier name && (Reader.constants.lookup name).isNone

/-! ## Names of expressions -/

/-- Every name in the expression is among `names`. -/
inductive Expression.Over (names : String → Prop) : Expression → Prop
  | constant (value : Value) : Over names (.constant value)
  | name {s : String} (h : names s) : Over names (.name s)
  | list {items : List Expression} (h : ∀ item ∈ items, Over names item) : Over names (.list items)
  | map {entries : List (Expression × Expression)} (hkeys : ∀ entry ∈ entries, Over names entry.1)
      (hvalues : ∀ entry ∈ entries, Over names entry.2) : Over names (.map entries)
  | negate {operand : Expression} (h : Over names operand) : Over names (.negate operand)
  | complement {operand : Expression} (h : Over names operand) : Over names (.complement operand)
  | operation (op : Operator) {left right : Expression} (hleft : Over names left)
      (hright : Over names right) : Over names (.operation op left right)
  | comparison {first : Expression} {rest : List (Comparison × Expression)}
      (hfirst : Over names first) (hrest : ∀ link ∈ rest, Over names link.2) :
      Over names (.comparison first rest)
  | both {left right : Expression} (hleft : Over names left) (hright : Over names right) :
      Over names (.both left right)
  | either {left right : Expression} (hleft : Over names left) (hright : Over names right) :
      Over names (.either left right)
  | choice {test yes no : Expression} (htest : Over names test) (hyes : Over names yes)
      (hno : Over names no) : Over names (.choice test yes no)
  | member {owner : Expression} (s : String) (h : Over names owner) : Over names (.member owner s)
  | item {owner index : Expression} (howner : Over names owner) (hindex : Over names index) :
      Over names (.item owner index)
  | filter (s : String) {subject : Expression} {arguments : List Expression}
      (hsubject : Over names subject) (h : ∀ argument ∈ arguments, Over names argument) :
      Over names (.filter s subject arguments)
  | test (s : String) {subject : Expression} {arguments : List Expression}
      (hsubject : Over names subject) (h : ∀ argument ∈ arguments, Over names argument) :
      Over names (.test s subject arguments)
  | call {callee : Expression} {arguments : List Expression} (hcallee : Over names callee)
      (h : ∀ argument ∈ arguments, Over names argument) : Over names (.call callee arguments)

namespace Expression

variable {names : String → Prop} {scope scope' : Scope}

theorem values_congr {items : List Expression}
    (h : ∀ item ∈ items, item.value scope = item.value scope') :
    values scope items = values scope' items := by
  induction items with
  | nil => rfl
  | cons first rest ih =>
    rw [List.forall_mem_cons] at h
    rw [values, values, h.1, ih h.2]

theorem entryValues_congr {entries : List (Expression × Expression)}
    (hkeys : ∀ entry ∈ entries, entry.1.value scope = entry.1.value scope')
    (hvalues : ∀ entry ∈ entries, entry.2.value scope = entry.2.value scope') :
    entryValues scope entries = entryValues scope' entries := by
  induction entries with
  | nil => rfl
  | cons entry rest ih =>
    obtain ⟨key, first⟩ := entry
    rw [List.forall_mem_cons] at hkeys hvalues
    rw [entryValues, entryValues, hkeys.1, hvalues.1, ih hkeys.2 hvalues.2]

theorem linksHold_congr {links : List (Comparison × Expression)}
    (h : ∀ link ∈ links, link.2.value scope = link.2.value scope') (left : Value) :
    linksHold scope left links = linksHold scope' left links := by
  induction links generalizing left with
  | nil => rfl
  | cons link rest ih =>
    obtain ⟨relation, right⟩ := link
    rw [List.forall_mem_cons] at h
    simp only [linksHold, h.1, ih h.2]

/-- The value of an expression depends only on what the names in it stand for. -/
theorem Over.value_congr {expression : Expression} (h : expression.Over names)
    (hscope : ∀ s, names s → scope.value s = scope'.value s) :
    expression.value scope = expression.value scope' := by
  induction h with
  | constant => rw [value, value]
  | name h => rw [value, value, hscope _ h]
  | list _ ih => rw [value, value, values_congr ih]
  | map _ _ ihkeys ihvalues => rw [value, value, entryValues_congr ihkeys ihvalues]
  | negate _ ih => rw [value, value, ih]
  | complement _ ih => rw [value, value, ih]
  | operation _ _ _ ihleft ihright => rw [value, value, ihleft, ihright]
  | comparison _ _ ihfirst ihrest => simp only [value, ihfirst, linksHold_congr ihrest]
  | both _ _ ihleft ihright => rw [value, value, ihleft, ihright]
  | either _ _ ihleft ihright => rw [value, value, ihleft, ihright]
  | choice _ _ _ ihtest ihyes ihno => rw [value, value, ihtest, ihyes, ihno]
  | member _ _ ih => rw [value, value, ih]
  | item _ _ ihowner ihindex => rw [value, value, ihowner, ihindex]
  | filter _ _ _ ihsubject ih => rw [value, value, ihsubject, values_congr ih]
  | test _ _ _ ihsubject ih => rw [value, value, ihsubject, values_congr ih]
  | call _ _ ihcallee ih => rw [value, value, ihcallee, values_congr ih]

/-! ## Expressions put together from their parts -/

theorem over_ofResult {expression : Expression} (h : expression.Over names)
    (result : Except Failure Value) : (ofResult expression result).Over names := by
  cases result with
  | ok value => exact .constant value
  | error _ => exact h

theorem over_ofItems {items : List Expression} (h : ∀ item ∈ items, item.Over names) :
    (ofItems items).Over names := by
  unfold ofItems
  split
  · exact .constant _
  · exact .list h

theorem over_ofEntries {entries : List (Expression × Expression)}
    (hkeys : ∀ entry ∈ entries, entry.1.Over names)
    (hvalues : ∀ entry ∈ entries, entry.2.Over names) : (ofEntries entries).Over names := by
  unfold ofEntries
  split
  · exact .constant _
  · exact .map hkeys hvalues

theorem over_ofNegative {operand : Expression} (h : operand.Over names) :
    (ofNegative operand).Over names := by
  unfold ofNegative
  split
  · exact over_ofResult (.negate h) _
  · exact .negate h

theorem over_ofComplement {operand : Expression} (h : operand.Over names) :
    (ofComplement operand).Over names := by
  unfold ofComplement
  split
  · exact .constant _
  · exact .complement h

theorem over_ofOperation (op : Operator) {left right : Expression} (hleft : left.Over names)
    (hright : right.Over names) : (ofOperation op left right).Over names := by
  unfold ofOperation
  split
  · exact over_ofResult (.operation op hleft hright) _
  · exact .operation op hleft hright

theorem over_ofComparisons {first : Expression} {links : List (Comparison × Expression)}
    (hfirst : first.Over names) (hlinks : ∀ link ∈ links, link.2.Over names) :
    (ofComparisons first links).Over names := by
  unfold ofComparisons
  split
  · exact hfirst
  · split
    · exact over_ofResult (.comparison hfirst hlinks) _
    · exact .comparison hfirst hlinks

theorem over_ofBoth {left right : Expression} (hleft : left.Over names)
    (hright : right.Over names) : (ofBoth left right).Over names := by
  unfold ofBoth
  split
  · exact .constant _
  · exact .both hleft hright

theorem over_ofEither {left right : Expression} (hleft : left.Over names)
    (hright : right.Over names) : (ofEither left right).Over names := by
  unfold ofEither
  split
  · exact .constant _
  · exact .either hleft hright

end Expression


/-! ## Names that readers leave -/

namespace Reader

/-- The names among the tokens are among `names`, apart from those that stand for constants. -/
def Permitted (names : String → Prop) (tokens : List Token) : Prop :=
  ∀ s, .name s ∈ tokens → constants.lookup s = none → names s

/-- What was read, if anything, is good, and the names behind it are permitted. -/
def Yields {α : Type} (names : String → Prop) (good : α → Prop)
    (result : Except Failure (α × List Token)) : Prop :=
  ∀ found rest, result = .ok (found, rest) → good found ∧ Permitted names rest

/-- From permitted tokens the reader yields something good. -/
def Reads {α : Type} (names : String → Prop) (good : α → Prop) (reader : Reader α) : Prop :=
  ∀ room tokens, Permitted names tokens → Yields names good (reader room tokens)

section

variable {α β : Type} {names : String → Prop} {good : α → Prop} {good' : β → Prop}
  {token : Token} {tokens : List Token}

theorem Permitted.tail (h : Permitted names (token :: tokens)) : Permitted names tokens :=
  fun s hs => h s (List.mem_cons_of_mem _ hs)

theorem Permitted.drop (h : Permitted names tokens) (n : Nat) : Permitted names (tokens.drop n) :=
  fun s hs => h s (List.mem_of_mem_drop hs)

theorem yields_error (failure : Failure) : Yields names good (.error failure) := nofun

theorem yields_ok {found : α} (hfound : good found) (h : Permitted names tokens) :
    Yields names good (.ok (found, tokens)) := by
  rintro _ _ ⟨⟩
  exact ⟨hfound, h⟩

theorem yields_bind {result : Except Failure (α × List Token)}
    {next : α × List Token → Except Failure (β × List Token)} (h : Yields names good result)
    (hnext : ∀ found rest, good found → Permitted names rest →
      Yields names good' (next (found, rest))) :
    Yields names good' (result >>= next) := by
  cases result with
  | error failure => exact yields_error failure
  | ok found =>
    obtain ⟨hfound, hrest⟩ := h _ _ rfl
    exact hnext _ _ hfound hrest

theorem yields_expect {next : List Token → Except Failure (β × List Token)}
    (h : Permitted names tokens)
    (hnext : ∀ rest, Permitted names rest → Yields names good' (next rest)) :
    Yields names good' (expect token tokens >>= next) := by
  unfold expect
  split
  · split
    · exact hnext _ h.tail
    · exact yields_error _
  · exact yields_error _

theorem symbol?_permitted {table : List (String × α)} {found : α × List Token}
    (hfound : symbol? table tokens = some found) (h : Permitted names tokens) :
    Permitted names found.2 := by
  unfold symbol? at hfound
  split at hfound
  · obtain ⟨_, -, rfl⟩ := Option.map_eq_some_iff.mp hfound
    exact h.tail
  · cases hfound

theorem comparison?_permitted {found : Comparison × List Token}
    (hfound : comparison? tokens = some found) (h : Permitted names tokens) :
    Permitted names found.2 := by
  unfold comparison? at hfound
  split at hfound
  · cases hfound
    exact h.tail
  · cases hfound
    exact h.tail.tail
  · exact symbol?_permitted hfound h

theorem readTexts_permitted {s : String} (h : Permitted names tokens) :
    Permitted names (readTexts s tokens).2 := by
  induction tokens generalizing s with
  | nil => exact h
  | cons token rest ih =>
    cases token with
    | str t => exact ih h.tail
    | _ => exact h

end

/-- Each of several expressions is over the names. -/
def AllOver (names : String → Prop) (items : List Expression) : Prop :=
  ∀ item ∈ items, item.Over names

/-- Readers with this fuel make expressions over the names. -/
structure ReadersOver (names : String → Prop) (fuel : Nat) : Prop where
  expression : Reads names (·.Over names) (readExpression fuel)
  choice : Reads names (·.Over names) (readChoice fuel)
  moreChoices : ∀ {first : Expression}, first.Over names →
    Reads names (·.Over names) (moreChoices fuel first)
  either : Reads names (·.Over names) (readEither fuel)
  moreEither : ∀ {left : Expression}, left.Over names →
    Reads names (·.Over names) (moreEither fuel left)
  both : Reads names (·.Over names) (readBoth fuel)
  moreBoth : ∀ {left : Expression}, left.Over names →
    Reads names (·.Over names) (moreBoth fuel left)
  complement : Reads names (·.Over names) (readComplement fuel)
  moreComparisons :
    Reads names (fun links => ∀ link ∈ links, link.2.Over names) (moreComparisons fuel)
  binary : ∀ levels, Reads names (·.Over names) (readBinary fuel levels)
  moreBinary : ∀ level stronger {left : Expression}, left.Over names →
    Reads names (·.Over names) (moreBinary fuel level stronger left)
  operand : Reads names (·.Over names) (readOperand fuel)
  signed : Reads names (·.Over names) (readSigned fuel)
  moreParts : ∀ {owner : Expression}, owner.Over names →
    Reads names (·.Over names) (moreParts fuel owner)
  moreFilters : ∀ {subject : Expression}, subject.Over names →
    Reads names (·.Over names) (moreFilters fuel subject)
  arguments : Reads names (AllOver names) (readArguments fuel)
  testArguments : Reads names (AllOver names) (readTestArguments fuel)
  items : ∀ closing continued, Reads names (AllOver names) (readItems fuel closing continued)
  entries : ∀ continued, Reads names
    (fun entries => (∀ entry ∈ entries, entry.1.Over names) ∧ ∀ entry ∈ entries, entry.2.Over names)
    (readEntries fuel continued)
  primary : Reads names (·.Over names) (readPrimary fuel)

/-! Each reader hands on to readers with less fuel. -/

section

variable {names : String → Prop} {fuel : Nat}

/-- Readers with less fuel make expressions over the names. -/
abbrev LessOver (names : String → Prop) (fuel : Nat) : Prop :=
  ∀ less, fuel = less + 1 → ReadersOver names less

theorem readExpression_over (h : LessOver names fuel) :
    Reads names (·.Over names) (readExpression fuel) := by
  intro room tokens htokens
  unfold readExpression
  split
  · exact yields_error _
  · exact yields_error _
  · exact (h _ rfl).choice _ _ htokens

theorem readChoice_over (h : LessOver names fuel) :
    Reads names (·.Over names) (readChoice fuel) := by
  intro room tokens htokens
  unfold readChoice
  split
  · exact yields_error _
  · exact yields_bind ((h _ rfl).either _ _ htokens) fun _ _ hfirst =>
      (h _ rfl).moreChoices hfirst _ _

theorem moreChoices_over (h : LessOver names fuel) {first : Expression}
    (hfirst : first.Over names) : Reads names (·.Over names) (moreChoices fuel first) := by
  intro room tokens htokens
  unfold moreChoices
  split
  · exact yields_error _
  · refine yields_bind ((h _ rfl).either _ _ htokens.tail) fun test rest htest hrest => ?_
    dsimp only
    split
    · exact yields_bind ((h _ rfl).choice _ _ hrest.tail) fun no _ hno =>
        (h _ rfl).moreChoices (.choice htest hfirst hno) _ _
    · exact (h _ rfl).moreChoices (.choice htest hfirst (.constant _)) _ _ hrest
  · exact yields_ok hfirst htokens

theorem readEither_over (h : LessOver names fuel) :
    Reads names (·.Over names) (readEither fuel) := by
  intro room tokens htokens
  unfold readEither
  split
  · exact yields_error _
  · exact yields_bind ((h _ rfl).both _ _ htokens) fun _ _ hfirst =>
      (h _ rfl).moreEither hfirst _ _

theorem moreEither_over (h : LessOver names fuel) {left : Expression} (hleft : left.Over names) :
    Reads names (·.Over names) (moreEither fuel left) := by
  intro room tokens htokens
  unfold moreEither
  split
  · exact yields_error _
  · exact yields_bind ((h _ rfl).both _ _ htokens.tail) fun _ _ hright =>
      (h _ rfl).moreEither (Expression.over_ofEither hleft hright) _ _
  · exact yields_ok hleft htokens

theorem readBoth_over (h : LessOver names fuel) :
    Reads names (·.Over names) (readBoth fuel) := by
  intro room tokens htokens
  unfold readBoth
  split
  · exact yields_error _
  · exact yields_bind ((h _ rfl).complement _ _ htokens) fun _ _ hfirst =>
      (h _ rfl).moreBoth hfirst _ _

theorem moreBoth_over (h : LessOver names fuel) {left : Expression} (hleft : left.Over names) :
    Reads names (·.Over names) (moreBoth fuel left) := by
  intro room tokens htokens
  unfold moreBoth
  split
  · exact yields_error _
  · exact yields_bind ((h _ rfl).complement _ _ htokens.tail) fun _ _ hright =>
      (h _ rfl).moreBoth (Expression.over_ofBoth hleft hright) _ _
  · exact yields_ok hleft htokens

theorem readComplement_over (h : LessOver names fuel) :
    Reads names (·.Over names) (readComplement fuel) := by
  intro room tokens htokens
  unfold readComplement
  split
  · exact yields_error _
  · exact yields_bind ((h _ rfl).complement _ _ htokens.tail) fun _ _ hoperand =>
      yields_ok (Expression.over_ofComplement hoperand)
  · exact yields_bind ((h _ rfl).binary _ _ _ htokens) fun _ _ hfirst hrest =>
      yields_bind ((h _ rfl).moreComparisons _ _ hrest) fun _ _ hlinks =>
        yields_ok (Expression.over_ofComparisons hfirst hlinks)

theorem moreComparisons_over (h : LessOver names fuel) :
    Reads names (fun links => ∀ link ∈ links, link.2.Over names) (moreComparisons fuel) := by
  intro room tokens htokens
  unfold moreComparisons
  split
  · exact yields_error _
  · split
    · exact yields_ok (List.forall_mem_nil _) htokens
    · rename_i hcomparison
      exact yields_bind ((h _ rfl).binary _ _ _ (comparison?_permitted hcomparison htokens))
        fun _ _ hright hrest =>
          yields_bind ((h _ rfl).moreComparisons _ _ hrest) fun _ _ hlinks =>
            yields_ok (List.forall_mem_cons.mpr ⟨hright, hlinks⟩)

theorem readBinary_over (h : LessOver names fuel) (levels : List (List (String × Operator))) :
    Reads names (·.Over names) (readBinary fuel levels) := by
  intro room tokens htokens
  unfold readBinary
  split
  · exact yields_error _
  · exact (h _ rfl).operand _ _ htokens
  · exact yields_bind ((h _ rfl).binary _ _ _ htokens) fun _ _ hfirst =>
      (h _ rfl).moreBinary _ _ hfirst _ _

theorem moreBinary_over (h : LessOver names fuel) (level : List (String × Operator))
    (stronger : List (List (String × Operator))) {left : Expression} (hleft : left.Over names) :
    Reads names (·.Over names) (moreBinary fuel level stronger left) := by
  intro room tokens htokens
  unfold moreBinary
  split
  · exact yields_error _
  · split
    · exact yields_ok hleft htokens
    · rename_i hsymbol
      exact yields_bind ((h _ rfl).binary _ _ _ (symbol?_permitted hsymbol htokens))
        fun _ _ hright =>
          (h _ rfl).moreBinary _ _ (Expression.over_ofOperation _ hleft hright) _ _

theorem readOperand_over (h : LessOver names fuel) :
    Reads names (·.Over names) (readOperand fuel) := by
  intro room tokens htokens
  unfold readOperand
  split
  · exact yields_error _
  · exact yields_bind ((h _ rfl).signed _ _ htokens) fun _ _ hsubject hrest =>
      yields_bind ((h _ rfl).moreParts hsubject _ _ hrest) fun _ _ hsubject =>
        (h _ rfl).moreFilters hsubject _ _

theorem readSigned_over (h : LessOver names fuel) :
    Reads names (·.Over names) (readSigned fuel) := by
  intro room tokens htokens
  unfold readSigned
  split
  · exact yields_error _
  · exact yields_bind ((h _ rfl).signed _ _ htokens.tail) fun _ _ hoperand =>
      yields_ok (Expression.over_ofNegative hoperand)
  · exact (h _ rfl).primary _ _ htokens

theorem moreParts_over (h : LessOver names fuel) {owner : Expression} (howner : owner.Over names) :
    Reads names (·.Over names) (moreParts fuel owner) := by
  intro room tokens htokens
  unfold moreParts
  split
  · exact yields_error _
  · exact (h _ rfl).moreParts (.member _ howner) _ _ htokens.tail.tail
  · exact (h _ rfl).moreParts (.item howner (.constant _)) _ _ htokens.tail.tail
  · exact yields_bind ((h _ rfl).expression _ _ htokens.tail) fun _ _ hindex hrest =>
      yields_expect hrest (fun _ => (h _ rfl).moreParts (.item howner hindex) _ _)
  · exact yields_bind ((h _ rfl).items _ _ _ _ htokens.tail) fun _ _ harguments =>
      (h _ rfl).moreParts (.call howner harguments) _ _
  · exact yields_error _
  · exact yields_ok howner htokens

theorem moreFilters_over (h : LessOver names fuel) {subject : Expression}
    (hsubject : subject.Over names) : Reads names (·.Over names) (moreFilters fuel subject) := by
  intro room tokens htokens
  unfold moreFilters
  split
  · exact yields_error _
  · exact yields_bind ((h _ rfl).arguments _ _ htokens.tail.tail) fun _ _ harguments =>
      (h _ rfl).moreFilters (.filter _ hsubject harguments) _ _
  · exact yields_bind ((h _ rfl).testArguments _ _ htokens.tail.tail.tail) fun _ _ harguments =>
      (h _ rfl).moreFilters (.complement (.test _ hsubject harguments)) _ _
  · exact yields_bind ((h _ rfl).testArguments _ _ htokens.tail.tail) fun _ _ harguments =>
      (h _ rfl).moreFilters (.test _ hsubject harguments) _ _
  · exact yields_error _
  · exact yields_error _
  · exact yields_ok hsubject htokens

theorem readArguments_over (h : LessOver names fuel) :
    Reads names (AllOver names) (readArguments fuel) := by
  intro room tokens htokens
  unfold readArguments
  split
  · exact yields_error _
  · exact (h _ rfl).items _ _ _ _ htokens.tail
  · exact yields_ok (List.forall_mem_nil _) htokens

theorem readTestArguments_over (h : LessOver names fuel) :
    Reads names (AllOver names) (readTestArguments fuel) := by
  intro room tokens htokens
  unfold readTestArguments
  split
  · exact yields_error _
  · exact (h _ rfl).items _ _ _ _ htokens.tail
  · split
    · exact yields_bind ((h _ rfl).signed _ _ htokens) fun _ _ hargument hrest =>
        yields_bind ((h _ rfl).moreParts hargument _ _ hrest) fun _ _ hargument =>
          yields_ok (List.forall_mem_singleton.mpr hargument)
    · exact yields_ok (List.forall_mem_nil _) htokens

theorem yields_comma {α : Type} {good : α → Prop} {continued : Bool} {tokens : List Token}
    {next : List Token → Except Failure (α × List Token)} (h : Permitted names tokens)
    (hnext : ∀ rest, Permitted names rest → Yields names good (next rest)) :
    Yields names good
      (if continued then expect (.symbol ",") tokens >>= next else .ok tokens >>= next) := by
  cases continued with
  | false => exact hnext _ h
  | true => exact yields_expect h hnext

theorem readItems_over (h : LessOver names fuel) (closing : String) (continued : Bool) :
    Reads names (AllOver names) (readItems fuel closing continued) := by
  intro room tokens htokens
  unfold readItems
  split
  · exact yields_error _
  · split
    · exact yields_ok (List.forall_mem_nil _) (htokens.drop 1)
    · refine yields_comma htokens fun rest hrest => ?_
      dsimp only
      split
      · exact yields_ok (List.forall_mem_nil _) (hrest.drop 1)
      · exact yields_bind ((h _ rfl).expression _ _ hrest) fun _ _ hfirst hrest =>
          yields_bind ((h _ rfl).items _ _ _ _ hrest) fun _ _ hmore =>
            yields_ok (List.forall_mem_cons.mpr ⟨hfirst, hmore⟩)

theorem readEntries_over (h : LessOver names fuel) (continued : Bool) :
    Reads names (fun entries =>
      (∀ entry ∈ entries, entry.1.Over names) ∧ ∀ entry ∈ entries, entry.2.Over names)
      (readEntries fuel continued) := by
  intro room tokens htokens
  unfold readEntries
  split
  · exact yields_error _
  · split
    · exact yields_ok ⟨List.forall_mem_nil _, List.forall_mem_nil _⟩ (htokens.drop 1)
    · refine yields_comma htokens fun rest hrest => ?_
      dsimp only
      split
      · exact yields_ok ⟨List.forall_mem_nil _, List.forall_mem_nil _⟩ (hrest.drop 1)
      · refine yields_bind ((h _ rfl).expression _ _ hrest) fun key rest hkey hrest => ?_
        refine yields_expect hrest fun rest hrest => ?_
        refine yields_bind ((h _ rfl).expression _ _ hrest) fun value rest hvalue hrest => ?_
        refine yields_bind ((h _ rfl).entries _ _ _ hrest) fun more rest hmore => ?_
        exact yields_ok ⟨List.forall_mem_cons.mpr ⟨hkey, hmore.1⟩,
          List.forall_mem_cons.mpr ⟨hvalue, hmore.2⟩⟩

theorem readPrimary_over (h : LessOver names fuel) :
    Reads names (·.Over names) (readPrimary fuel) := by
  intro room tokens htokens
  unfold readPrimary
  split
  · exact yields_error _
  · exact yields_error _
  · split
    · exact yields_ok (.constant _) htokens.tail
    · rename_i hconstant
      exact yields_ok (.name (htokens _ List.mem_cons_self hconstant)) htokens.tail
  · exact yields_ok (.constant _) (readTexts_permitted htokens.tail)
  · exact yields_ok (.constant _) htokens.tail
  · exact yields_ok (.constant _) htokens.tail
  · split
    · exact yields_ok (Expression.over_ofItems (List.forall_mem_nil _)) (htokens.tail.drop 1)
    · refine yields_bind ((h _ rfl).expression _ _ htokens.tail) fun first rest hfirst hrest => ?_
      dsimp only
      split
      · exact yields_bind ((h _ rfl).items _ _ _ _ hrest) fun _ _ hmore =>
          yields_ok (Expression.over_ofItems (List.forall_mem_cons.mpr ⟨hfirst, hmore⟩))
      · exact yields_expect hrest fun _ => yields_ok hfirst
  · exact yields_bind ((h _ rfl).items _ _ _ _ htokens.tail) fun _ _ hitems =>
      yields_ok (Expression.over_ofItems hitems)
  · exact yields_bind ((h _ rfl).entries _ _ _ htokens.tail) fun _ _ hentries =>
      yields_ok (Expression.over_ofEntries hentries.1 hentries.2)
  · exact yields_error _

theorem ReadersOver.of_less (h : LessOver names fuel) : ReadersOver names fuel where
  expression := readExpression_over h
  choice := readChoice_over h
  moreChoices := moreChoices_over h
  either := readEither_over h
  moreEither := moreEither_over h
  both := readBoth_over h
  moreBoth := moreBoth_over h
  complement := readComplement_over h
  moreComparisons := moreComparisons_over h
  binary := readBinary_over h
  moreBinary := moreBinary_over h
  operand := readOperand_over h
  signed := readSigned_over h
  moreParts := moreParts_over h
  moreFilters := moreFilters_over h
  arguments := readArguments_over h
  testArguments := readTestArguments_over h
  items := readItems_over h
  entries := readEntries_over h
  primary := readPrimary_over h

/-- Whatever their fuel, the readers put only permitted names into expressions. -/
theorem readersOver (names : String → Prop) (fuel : Nat) : ReadersOver names fuel := by
  induction fuel with
  | zero => exact .of_less nofun
  | succ fuel ih =>
    refine .of_less fun less hless => ?_
    obtain rfl : fuel = less := Nat.succ.inj hless
    exact ih

end

end Reader

/-! ## What the value of a text depends on -/

/-- The names in the expression that a text makes up are variables. -/
theorem Expression.ofText?_over {source : String} {expression : Expression}
    (h : ofText? source = .ok expression) : expression.Over (isVariable · = true) := by
  unfold ofText? Token.ofExpression at h
  dsimp only at h
  cases hcode : Token.readCode .endOfText (source.toList.length + 1) 0 source.toList with
  | error _ =>
    rw [hcode] at h
    cases h
  | ok code =>
    have hpermitted : Reader.Permitted (isVariable · = true) code.tokens := by
      intro s hs hlookup
      unfold isVariable
      rw [Token.readCode_names hcode s hs, hlookup]
      rfl
    simp only [hcode, Except.map, bind, Except.bind] at h
    have hread := (Reader.readersOver (isVariable · = true) (Reader.fuelFor code.tokens)).expression
      Reader.levelLimit code.tokens hpermitted
    split at h
    · cases h
    · rename_i found hfound
      split at h
      · cases h
        exact (hread _ _ hfound).1
      · cases h

/-- Whether an expression holds does not depend on fields whose names are no variables. -/
theorem holds_congr (source : String) {fields fields' : Table Json}
    (h : ∀ name, isVariable name = true → Table.get? fields name = Table.get? fields' name) :
    holds source (.obj fields) = holds source (.obj fields') := by
  unfold holds
  cases hread : Expression.ofText? source with
  | error _ => rfl
  | ok expression =>
    have hvalue := (Expression.ofText?_over hread).value_congr
      (fun name hname => Scope.value_ofRoot_congr (h name hname))
    simp only [bind, Except.bind, hvalue]

end DialogueFlow.Template
