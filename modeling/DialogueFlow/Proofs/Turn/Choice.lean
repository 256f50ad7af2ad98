/-
  How a node's links are chosen among, and what is asked for that. The conditions that are not blank
  are decided in order until one holds (`firstHolding_of_rejects`), whatever the evaluator answers
  and whether its answers depend on what it was asked before. Main statement: `nextId_complete`, for
  every node: the target that is chosen, and the log of exactly the questions that choosing it took.
-/
import DialogueFlow.Proofs.Turn.Selection
import DialogueFlow.Templated

namespace DialogueFlow

namespace Condition

variable (services : Services) (context : Table Json) (conversation : Conversation)

/-- What deciding a condition asks, the latest question first: the condition is rendered, and if
that gives a text, the text is evaluated. -/
def questions (asked : List Question) (condition : String) : List Question :=
  match services.evaluator.render asked condition (templateRoot context) with
  | .error _ => [.render condition (templateRoot context)]
  | .ok expression =>
    [.evaluate expression (document context conversation), .render condition (templateRoot context)]

/-- The log after some conditions were decided, one after the other. -/
def logAfter (asked : List Question) (conditions : List String) : List Question :=
  conditions.foldl
    (fun log condition => questions services context conversation log condition ++ log) asked

/-- The condition is rendered, and the text is evaluated to true. -/
def Accepted (asked : List Question) (condition : String) : Prop :=
  ∃ expression, services.evaluator.render asked condition (templateRoot context) = .ok expression ∧
    services.evaluator.evaluate (.render condition (templateRoot context) :: asked) expression
      (document context conversation) = .ok true

variable {services context conversation}

theorem holds_iff (asked : List Question) (condition : String) :
    (holds services condition context conversation asked).1 = true ↔
      Accepted services context conversation asked condition := by
  unfold holds Accepted
  rw [Asking.bind_apply, Services.render]
  dsimp only
  cases services.evaluator.render asked condition (templateRoot context) with
  | error reason => simp
  | ok expression =>
    dsimp only
    rw [Asking.bind_apply, Services.evaluate]
    dsimp only
    cases hvalue : services.evaluator.evaluate (.render condition (templateRoot context) :: asked)
        expression (document context conversation) <;> simp [hvalue]

theorem holds_asks (asked : List Question) (condition : String) :
    (holds services condition context conversation asked).2 =
      questions services context conversation asked condition ++ asked := by
  unfold holds questions
  rw [Asking.bind_apply, Services.render]
  dsimp only
  cases services.evaluator.render asked condition (templateRoot context) with
  | error reason => rfl
  | ok expression =>
    dsimp only
    rw [Asking.bind_apply, Services.evaluate]
    dsimp only
    cases services.evaluator.evaluate (.render condition (templateRoot context) :: asked) expression
      (document context conversation) <;> rfl

theorem logAfter_cons (asked : List Question) (condition : String) (rest : List String) :
    logAfter services context conversation asked (condition :: rest) =
      logAfter services context conversation
        (holds services condition context conversation asked).2 rest := by
  rw [holds_asks]
  rfl

theorem logAfter_concat (asked : List Question) (earlier : List String) (condition : String) :
    logAfter services context conversation asked (earlier ++ [condition]) =
      (holds services condition context conversation
        (logAfter services context conversation asked earlier)).2 := by
  rw [holds_asks, logAfter, List.foldl_append]
  rfl

/-- Deciding conditions only adds to the log, and no text is generated for it. -/
theorem logAfter_extends (services : Services) (context : Table Json) (conversation : Conversation)
    (asked : List Question) (conditions : List String) :
    ∃ made, logAfter services context conversation asked conditions = made ++ asked ∧
      ∀ prompt config state, .generate prompt config state ∉ made := by
  induction conditions generalizing asked with
  | nil => exact ⟨[], rfl, by simp⟩
  | cons condition rest ih =>
    obtain ⟨made, hmade, hnone⟩ :=
      ih (questions services context conversation asked condition ++ asked)
    refine ⟨made ++ questions services context conversation asked condition, ?_, ?_⟩
    · rw [List.append_assoc, ← hmade]
      rfl
    · intro prompt config state hmem
      rcases List.mem_append.mp hmem with hmem | hmem
      · exact hnone prompt config state hmem
      · unfold questions at hmem
        split at hmem <;> simp at hmem

end Condition

namespace Selection

open Condition

/-- The conditions that are decided, in order: those of the links that are not blank. -/
def conditions (links : List Link) : List String :=
  links.filterMap fun
    | .when condition _ => if Text.isBlankText condition then none else some condition
    | _ => none

/-- Each condition of the links, decided after those before it, does not hold. -/
def Rejects (services : Services) (context : Table Json) (conversation : Conversation)
    (asked : List Question) (links : List Link) : Prop :=
  ∀ earlier condition later, conditions links = earlier ++ condition :: later →
    (holds services condition context conversation
      (logAfter services context conversation asked earlier)).1 = false

variable {services : Services} {context : Table Json} {conversation : Conversation}

theorem conditions_append (first second : List Link) :
    conditions (first ++ second) = conditions first ++ conditions second :=
  List.filterMap_append

theorem conditions_when {condition : String} (h : Text.isBlankText condition = false)
    (target : String) (rest : List Link) :
    conditions (.when condition target :: rest) = condition :: conditions rest := by
  simp [conditions, h]

theorem mem_conditions {links : List Link} {condition : String} :
    condition ∈ conditions links ↔
      Text.isBlankText condition = false ∧ ∃ target, .when condition target ∈ links := by
  unfold conditions
  rw [List.mem_filterMap]
  constructor
  · rintro ⟨link, hlink, hcondition⟩
    cases link with
    | when other target =>
      cases hblank : Text.isBlankText other with
      | true => simp [hblank] at hcondition
      | false =>
        simp only [hblank, Bool.false_eq_true, if_false, Option.some.injEq] at hcondition
        subst hcondition
        exact ⟨hblank, target, hlink⟩
    | _ => cases hcondition
  · rintro ⟨hblank, target, hlink⟩
    exact ⟨_, hlink, by simp [hblank]⟩

theorem rejects_congr {asked : List Question} {links others : List Link}
    (h : conditions links = conditions others) :
    Rejects services context conversation asked links ↔
      Rejects services context conversation asked others := by
  unfold Rejects
  rw [h]

theorem rejects_when {condition : String} (h : Text.isBlankText condition = false)
    (asked : List Question) (target : String) (rest : List Link) :
    Rejects services context conversation asked (.when condition target :: rest) ↔
      (holds services condition context conversation asked).1 = false ∧
        Rejects services context conversation
          (holds services condition context conversation asked).2 rest := by
  unfold Rejects
  rw [conditions_when h]
  constructor
  · intro hrejects
    refine ⟨hrejects [] condition _ rfl, fun earlier other later heq => ?_⟩
    rw [← logAfter_cons]
    exact hrejects (condition :: earlier) other later (by rw [heq]; rfl)
  · rintro ⟨hfirst, hrest⟩ earlier other later heq
    cases earlier with
    | nil =>
      obtain ⟨rfl, -⟩ := List.cons.inj heq
      exact hfirst
    | cons head earlier =>
      obtain ⟨rfl, htail⟩ := List.cons.inj heq
      rw [logAfter_cons]
      exact hrest earlier other later htail

theorem firstHolding_when {condition : String} (h : Text.isBlankText condition = false)
    (target : String) (rest : List Link) (asked : List Question) :
    firstHolding services context conversation (.when condition target :: rest) asked =
      if (holds services condition context conversation asked).1 then
        (some target, (holds services condition context conversation asked).2)
      else firstHolding services context conversation rest
        (holds services condition context conversation asked).2 := by
  rw [firstHolding, if_neg (by simp [h]), Asking.bind_apply]
  split <;> rfl

/-- A link has no condition to decide, and is passed over, or it has one. -/
theorem passed_or_decided (services : Services) (context : Table Json)
    (conversation : Conversation) (link : Link) :
    (∀ rest, conditions (link :: rest) = conditions rest ∧
      firstHolding services context conversation (link :: rest) =
        firstHolding services context conversation rest) ∨
    ∃ condition target, link = .when condition target ∧ Text.isBlankText condition = false := by
  cases link with
  | when condition target =>
    cases hblank : Text.isBlankText condition with
    | true =>
      exact Or.inl fun rest => ⟨by simp [conditions, hblank], by simp [firstHolding, hblank]⟩
    | false => exact Or.inr ⟨condition, target, rfl, hblank⟩
  | always _ => exact Or.inl fun rest => ⟨rfl, rfl⟩
  | otherwise _ => exact Or.inl fun rest => ⟨rfl, rfl⟩

/-- Links whose conditions do not hold are passed over, with the questions that this takes. -/
theorem firstHolding_of_rejects {asked : List Question} {earlier : List Link}
    (h : Rejects services context conversation asked earlier) (rest : List Link) :
    firstHolding services context conversation (earlier ++ rest) asked =
      firstHolding services context conversation rest
        (logAfter services context conversation asked (conditions earlier)) := by
  induction earlier generalizing asked with
  | nil => rfl
  | cons link earlier ih =>
    rcases passed_or_decided services context conversation link with
      hpassed | ⟨condition, target, rfl, hblank⟩
    · rw [List.cons_append, (hpassed _).2, (hpassed earlier).1]
      exact ih ((rejects_congr (hpassed earlier).1).mp h)
    · obtain ⟨hfirst, hrest⟩ := (rejects_when hblank asked target earlier).mp h
      rw [List.cons_append, firstHolding_when hblank, hfirst, conditions_when hblank,
        logAfter_cons]
      exact ih hrest

/-- The first link whose condition holds is found, with the questions that it takes to get there. -/
theorem firstHolding_of_holds {asked : List Question} {earlier : List Link} {condition : String}
    (hblank : Text.isBlankText condition = false)
    (hrejects : Rejects services context conversation asked earlier)
    (hholds : (holds services condition context conversation
      (logAfter services context conversation asked (conditions earlier))).1 = true)
    (target : String) (later : List Link) :
    firstHolding services context conversation (earlier ++ .when condition target :: later) asked =
      (some target, logAfter services context conversation asked
        (conditions (earlier ++ [.when condition target]))) := by
  rw [firstHolding_of_rejects hrejects, firstHolding_when hblank, if_pos hholds,
    conditions_append, conditions_when hblank, ← logAfter_concat]
  rfl

/-- The link of this condition, behind these earlier ones, is the first whose condition holds. -/
def FirstHolds (services : Services) (context : Table Json) (conversation : Conversation)
    (asked : List Question) (links earlier : List Link) (condition target : String) : Prop :=
  ∃ later, links = earlier ++ .when condition target :: later ∧
    Text.isBlankText condition = false ∧ Rejects services context conversation asked earlier ∧
    (holds services condition context conversation
      (logAfter services context conversation asked (conditions earlier))).1 = true

theorem rejects_nil (asked : List Question) :
    Rejects services context conversation asked [] := by
  intro earlier condition later heq
  cases earlier <;> cases heq

/-- No condition of the links holds, or there is a first one that does. -/
theorem rejects_or_firstHolds (asked : List Question) (links : List Link) :
    Rejects services context conversation asked links ∨ ∃ earlier condition target,
      FirstHolds services context conversation asked links earlier condition target := by
  induction links generalizing asked with
  | nil => exact Or.inl (rejects_nil asked)
  | cons link rest ih =>
    rcases passed_or_decided services context conversation link with
      hpassed | ⟨condition, target, rfl, hblank⟩
    · rcases ih asked with hrejects | ⟨earlier, condition, target, later, rfl, hfirst⟩
      · exact Or.inl ((rejects_congr (hpassed rest).1).mpr hrejects)
      · refine Or.inr ⟨link :: earlier, condition, target, later, rfl, hfirst.1, ?_, ?_⟩
        · exact (rejects_congr (hpassed earlier).1).mpr hfirst.2.1
        · rw [(hpassed earlier).1]
          exact hfirst.2.2
    · cases hholds : (holds services condition context conversation asked).1 with
      | true => exact Or.inr ⟨[], condition, target, rest, rfl, hblank, rejects_nil asked, hholds⟩
      | false =>
        rcases ih (holds services condition context conversation asked).2 with
          hrejects | ⟨earlier, other, found, later, rfl, hfirst⟩
        · exact Or.inl ((rejects_when hblank asked target rest).mpr ⟨hholds, hrejects⟩)
        · refine Or.inr ⟨_ :: earlier, other, found, later, rfl, hfirst.1, ?_, ?_⟩
          · exact (rejects_when hblank asked target earlier).mpr ⟨hholds, hfirst.2.1⟩
          · rw [conditions_when hblank, logAfter_cons]
            exact hfirst.2.2

/-- No link is found exactly if no condition of the links holds. -/
theorem firstHolding_eq_none_iff (asked : List Question) (links : List Link) :
    (firstHolding services context conversation links asked).1 = none ↔
      Rejects services context conversation asked links := by
  constructor
  · intro h
    rcases rejects_or_firstHolds asked links with
      hrejects | ⟨earlier, condition, target, later, rfl, hblank, hrejects, hholds⟩
    · exact hrejects
    · rw [firstHolding_of_holds hblank hrejects hholds] at h
      cases h
  · intro h
    have hnone := firstHolding_of_rejects h []
    rw [List.append_nil] at hnone
    rw [hnone]
    rfl

/-- The first fallback, wherever it stands. -/
theorem fallback?_append {earlier later : List Link} {target : String}
    (h : ∀ other, .otherwise other ∉ earlier) :
    fallback? (earlier ++ .otherwise target :: later) = some target := by
  rw [fallback?, List.findSome?_append]
  have hnone : fallback? earlier = none := fallback?_eq_none_iff.mpr h
  rw [fallback?] at hnone
  rw [hnone]
  rfl

/-- What comes next when no condition holds, and the questions that it takes to find that. -/
theorem nextId_of_rejects {node : Node} (hnot : ∀ target, node.next ≠ [.always target])
    {asked : List Question}
    (h : Rejects services context conversation asked node.next) :
    nextId services node context conversation asked =
      ((fallback? node.next).or (if node.next = [] then withoutLinks node else none),
        logAfter services context conversation asked (conditions node.next)) := by
  have hnone := firstHolding_of_rejects h []
  rw [List.append_nil] at hnone
  rw [nextId_choice hnot, hnone]
  rfl

/-- How the next id is chosen. A single unconditional link is taken, and nothing is asked. Otherwise
the conditions that are not blank are decided in order: each is rendered, and evaluated if that
succeeds, and it holds only if both succeed. The first link whose condition holds is taken, and no
later condition is decided. If none holds, all of them were decided; then the first fallback is
taken, wherever it stands, and without one nothing comes next, but that a link step without links
comes to the end. -/
theorem nextId_complete (services : Services) (node : Node) (context : Table Json)
    (conversation : Conversation) (asked : List Question) :
    let chosen := nextId services node context conversation asked
    let log := fun links =>
      logAfter services context conversation asked (conditions links)
    (∀ target, node.next = [.always target] → chosen = (some target, asked)) ∧
    ((∀ target, node.next ≠ [.always target]) →
      (∀ earlier condition target,
        FirstHolds services context conversation asked node.next earlier condition target →
        chosen = (some target, log (earlier ++ [.when condition target]))) ∧
      ((¬ ∃ earlier condition target,
          FirstHolds services context conversation asked node.next earlier condition target) →
        Rejects services context conversation asked node.next ∧ chosen.2 = log node.next ∧
        (∀ earlier target later, node.next = earlier ++ .otherwise target :: later →
          (∀ other, .otherwise other ∉ earlier) → chosen.1 = some target) ∧
        ((∀ target, .otherwise target ∉ node.next) → node.next ≠ [] → chosen.1 = none) ∧
        (node.next = [] →
          chosen.1 = if node.isLinkStep ∧ node.id ≠ endId then some endId else none))) ∧
    ∀ log condition,
      ((holds services condition context conversation log).1 = true ↔
        Accepted services context conversation log condition) ∧
      (holds services condition context conversation log).2 =
        questions services context conversation log condition ++ log := by
  intro chosen log
  refine ⟨fun target hsingle => nextId_single hsingle asked, fun hnot => ⟨?_, fun hnone => ?_⟩,
    fun log condition => ⟨holds_iff log condition, holds_asks log condition⟩⟩
  · rintro earlier condition target ⟨later, hnext, hblank, hrejects, hholds⟩
    have hfirst : firstHolding services context conversation node.next asked =
        (some target, log (earlier ++ [.when condition target])) := by
      rw [hnext, firstHolding_of_holds hblank hrejects hholds]
    show nextId services node context conversation asked = _
    rw [nextId_choice hnot, hfirst]
    rfl
  · have hrejects := (rejects_or_firstHolds asked node.next).resolve_right hnone
    have hchosen : chosen = ((fallback? node.next).or
        (if node.next = [] then withoutLinks node else none), log node.next) :=
      nextId_of_rejects hnot hrejects
    rw [hchosen]
    refine ⟨hrejects, rfl, fun earlier target later hnext hfirst => ?_,
      fun hunmatched hlinked => ?_, fun hempty => ?_⟩
    · rw [hnext, fallback?_append hfirst]
      rfl
    · rw [fallback?_eq_none_iff.mpr hunmatched, if_neg hlinked]
      rfl
    · rw [hempty]
      unfold withoutLinks
      simp only [and_comm]
      rfl

/-- A branch with a fallback before its conditions: one is blank, one cannot be rendered, one cannot
be evaluated, one holds, and one stands behind that. -/
def sorting : Node :=
  .step ⟨"sort", .branch, [.otherwise "ask", .when " " "blank", .when "\x7b%" "unreadable",
    .when "size >" "broken", .when "size == 'large'" "large", .when "size" "other"]⟩

/-- The failures count as conditions that do not hold, and behind the one that holds nothing is
asked. -/
theorem sorting_comes_to_large :
    let conversation := (Conversation.fresh "user" .empty).record (.slotSet "size" (.str "large"))
    let root := Condition.templateRoot []
    let document := Condition.document [] conversation
    let before : List Question :=
      [.evaluate "size >" document, .render "size >" root, .render "\x7b%" root]
    (∀ target, sorting.next ≠ [.always target]) ∧
    FirstHolds Templated.services [] conversation [] sorting.next (sorting.next.take 4)
      "size == 'large'" "large" ∧
    nextId Templated.services sorting [] conversation [] = (some "large",
      [.evaluate "size == 'large'" document, .render "size == 'large'" root] ++ before) := by
  intro conversation root document before
  have hnot : ∀ target, sorting.next ≠ [.always target] := by
    intro target hsingle
    have hlength : 6 = 1 := congrArg List.length hsingle
    cases hlength
  have hrejects : Rejects Templated.services [] conversation [] (sorting.next.take 4) := by
    rw [← firstHolding_eq_none_iff]
    decide +kernel
  have hbefore : logAfter Templated.services [] conversation []
      (conditions (sorting.next.take 4)) = before := by decide +kernel
  have hholds : (holds Templated.services "size == 'large'" [] conversation before).1 = true := by
    decide +kernel
  have hlog : logAfter Templated.services [] conversation []
      (conditions (sorting.next.take 4 ++ [.when "size == 'large'" "large"])) =
        [.evaluate "size == 'large'" document, .render "size == 'large'" root] ++ before := by
    decide +kernel
  obtain ⟨-, hchoice, -⟩ := nextId_complete Templated.services sorting [] conversation []
  have hfirst : FirstHolds Templated.services [] conversation [] sorting.next
      (sorting.next.take 4) "size == 'large'" "large" :=
    ⟨sorting.next.drop 5, rfl, by decide, hrejects, hbefore.symm ▸ hholds⟩
  have hchosen := (hchoice hnot).1 _ _ _ hfirst
  dsimp only at hchosen
  rw [hlog] at hchosen
  exact ⟨hnot, hfirst, hchosen⟩

end Selection

end DialogueFlow
