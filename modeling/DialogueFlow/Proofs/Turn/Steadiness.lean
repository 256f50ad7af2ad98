/-
  Two runs side by side. What two computations give is related whatever was asked before either
  (`Asking.Related`); a computation is steady if so related to itself. Where the services tell
  conversations apart by no more than a turn does (`Services.Indistinct`), turns of two of these come
  to the same (`related_selectAction`); for equal conversations that says that a turn is steady when
  its services are (`steady_selectAction`).
-/
import DialogueFlow.Turn

namespace DialogueFlow

/-- The answer does not depend on the questions asked before. -/
def Asking.Steady {α : Type} (x : Asking α) : Prop := ∀ asked asked', (x asked).1 = (x asked').1

namespace Asking

variable {α β γ δ : Type}

/-- Whatever was asked before either, what the two computations give is related. -/
def Related (R : α → β → Prop) (x : Asking α) (y : Asking β) : Prop :=
  ∀ asked asked', R (x asked).1 (y asked').1

section

variable {R : α → β → Prop} {S : γ → δ → Prop}

theorem related_pure {a : α} {b : β} (h : R a b) : Related R (pure a) (pure b) := fun _ _ => h

theorem related_bind {x : Asking α} {y : Asking β} {f : α → Asking γ} {g : β → Asking δ}
    (hfirst : Related R x y) (hrest : ∀ a b, R a b → Related S (f a) (g b)) :
    Related S (x >>= f) (y >>= g) :=
  fun asked asked' => hrest _ _ (hfirst asked asked') _ _

end

theorem Steady.related {x : Asking α} (h : Steady x) : Related Eq x x := h

theorem steady_pure (a : α) : Steady (pure a) := fun _ _ => rfl

theorem steady_bind {x : Asking α} {f : α → Asking β} (hx : Steady x) (hf : ∀ a, Steady (f a)) :
    Steady (x >>= f) := by
  refine related_bind hx.related ?_
  rintro a _ rfl
  exact hf a

end Asking

open Asking

/-- What the evaluator answers depends on the question alone. -/
def Evaluator.Steady (evaluator : Evaluator) : Prop :=
  (∀ log log' template root,
    evaluator.render log template root = evaluator.render log' template root) ∧
  ∀ log log' expression document,
    evaluator.evaluate log expression document = evaluator.evaluate log' expression document

namespace Services

variable {services : Services}

theorem Steady.evaluator (h : services.Steady) : services.evaluator.Steady := ⟨h.1, h.2.1⟩

theorem steady_render (h : services.evaluator.Steady) (template : String) (root : Json) :
    Asking.Steady (services.render template root) :=
  fun asked asked' => h.1 asked asked' template root

theorem steady_evaluate (h : services.evaluator.Steady) (expression : String) (document : Json) :
    Asking.Steady (services.evaluate expression document) :=
  fun asked asked' => h.2 asked asked' expression document

end Services

/-- Conversations related by `R` have in common what a turn reads of them, they stay related as events
are recorded, and the steady services generate the same texts from them. -/
structure Services.Indistinct (services : Services) (R : Conversation → Conversation → Prop) :
    Prop where
  steady : services.Steady
  values : ∀ {first second}, R first second → first.values = second.values
  initialValue : ∀ {first second}, R first second →
    first.initialValue = second.initialValue
  askAgain : ∀ {first second}, R first second → ∀ name askBeforeFilling,
    Interpreter.askAgain name askBeforeFilling first =
      Interpreter.askAgain name askBeforeFilling second
  recordAll : ∀ {first second}, R first second → ∀ events,
    R (first.recordAll events) (second.recordAll events)
  generate : ∀ {first second}, R first second → ∀ asked prompt config,
    services.generator.generate asked prompt config first =
      services.generator.generate asked prompt config second

theorem Services.Steady.indistinct {services : Services} (h : services.Steady) :
    services.Indistinct Eq where
  steady := h
  values := fun heq => congrArg _ heq
  initialValue := fun heq => congrArg _ heq
  askAgain := fun heq _ _ => congrArg _ heq
  recordAll := fun heq events => congrArg (Conversation.recordAll · events) heq
  generate := fun heq _ _ _ => congrArg _ heq

namespace Condition

theorem steady_holds {services : Services} (h : services.evaluator.Steady) (condition : String)
    (context : Table Json) (conversation : Conversation) :
    Asking.Steady (holds services condition context conversation) := by
  refine steady_bind (services.steady_render h _ _) fun rendered => ?_
  cases rendered with
  | error _ => exact steady_pure _
  | ok expression =>
    refine steady_bind (services.steady_evaluate h _ _) fun evaluated => ?_
    cases evaluated with
    | error _ => exact steady_pure _
    | ok _ => exact steady_pure _

end Condition

namespace Selection

variable {services : Services} (h : services.evaluator.Steady)
include h

theorem steady_firstHolding (context : Table Json) (conversation : Conversation)
    (links : List Link) :
    Asking.Steady (firstHolding services context conversation links) := by
  induction links with
  | nil => exact steady_pure _
  | cons link rest ih =>
    cases link with
    | when condition target =>
      unfold firstHolding
      split
      · exact ih
      · refine steady_bind (Condition.steady_holds h _ _ _) fun held => ?_
        cases held with
        | true => exact steady_pure _
        | false => exact ih
    | always _ => exact ih
    | otherwise _ => exact ih

theorem steady_nextId (node : Node) (context : Table Json) (conversation : Conversation) :
    Asking.Steady (nextId services node context conversation) := by
  unfold nextId
  split
  · exact steady_pure _
  · refine steady_bind (steady_firstHolding h context conversation _) fun held => ?_
    cases held with
    | some _ => exact steady_pure _
    | none =>
      dsimp only
      split <;> exact steady_pure _

theorem steady_nextNode (node : Node) (flow : Flow) (stack : Stack)
    (conversation : Conversation) :
    Asking.Steady (nextNode services node flow stack conversation) := by
  refine steady_bind (steady_nextId h node _ conversation) fun id => ?_
  cases id with
  | some _ => exact steady_pure _
  | none => exact steady_pure _

omit h in
theorem nextNode_congr {first second : Conversation} (hvalues : first.values = second.values)
    (current : Node) (flow : Flow) (stack : Stack) :
    nextNode services current flow stack first = nextNode services current flow stack second := by
  have hholding : ∀ context links,
      firstHolding services context first links = firstHolding services context second links := by
    intro context links
    induction links with
    | nil => rfl
    | cons link rest ih =>
      cases link with
      | when condition target =>
        unfold firstHolding Condition.holds Condition.document
        rw [ih, hvalues]
      | always _ => exact ih
      | otherwise _ => exact ih
  unfold nextNode nextId
  simp only [hholding]

end Selection

variable {setting : Setting} {R : Conversation → Conversation → Prop}

namespace Interpreter

theorem steady_runAction (h : setting.services.evaluator.Steady) (flow : Flow) (stepId : String)
    (action : Option String) (stack : Stack) :
    Asking.Steady (runAction setting flow stepId action stack) := by
  unfold runAction
  split
  · exact steady_pure _
  · refine steady_bind (setting.services.steady_render h _ _) fun rendered => ?_
    cases rendered with
    | error _ => exact steady_pure _
    | ok _ => exact steady_pure _

variable (hservices : setting.services.Indistinct R) {first second : Conversation}
  (h : R first second)
include hservices h

theorem related_runStep (flow : Flow) (step : Step) (stack : Stack) :
    Related Eq (runStep setting flow step stack first) (runStep setting flow step stack second) := by
  unfold runStep
  cases step.task with
  | action name =>
    have haction := steady_runAction hservices.steady.evaluator flow step.id name stack
    refine related_bind haction.related ?_
    rintro ran _ rfl
    exact related_pure rfl
  | collect slot utter rejections askBeforeFilling resetAfterFlowEnds =>
    dsimp only
    rw [hservices.askAgain h]
    exact related_pure rfl
  | setSlots assignments => exact related_pure rfl
  | branch => exact related_pure rfl
  | link id => exact related_pure rfl
  | generateResponse prompt config =>
    have htext : Related Eq (setting.services.generate prompt config first)
        (setting.services.generate prompt config second) := by
      intro asked asked'
      have hsteady := hservices.steady.2.2 asked asked' prompt config first
      exact hsteady.trans (hservices.generate h asked' prompt config)
    refine related_bind htext ?_
    rintro text _ rfl
    exact related_pure rfl

theorem related_run (flow : Flow) (node : Node) (stack : Stack) :
    Related Eq (run setting flow node stack first) (run setting flow node stack second) := by
  cases node with
  | step step => exact related_runStep hservices h flow step stack
  | finish =>
    refine related_pure ?_
    unfold runEnd Pattern.resets
    rw [hservices.initialValue h]
  | start _ => exact related_pure rfl
  | resume _ => exact related_pure rfl

end Interpreter

namespace Turn

/-- The turns stand at the same place, and their working copies are related. -/
structure Progress.Alike (R : Conversation → Conversation → Prop) (first second : Progress) :
    Prop where
  stack : first.stack = second.stack
  conversation : R first.conversation second.conversation
  events : first.events = second.events

/-- The turns come to the same, and are alike where they stand. -/
def Alike {α : Type} (R : Conversation → Conversation → Prop) (one other : Progress × α) : Prop :=
  one.1.Alike R other.1 ∧ one.2 = other.2

variable (hservices : setting.services.Indistinct R) {first second : Progress}
include hservices

theorem alike_advance (h : first.Alike R second) (stack : Stack) (events : List Event) :
    (first.advance stack events).Alike R (second.advance stack events) where
  stack := rfl
  conversation := hservices.recordAll h.conversation events
  events := congrArg (· ++ events) h.events

theorem related_interpret (h : first.Alike R second) (flow : Flow) (current : Node) :
    Related (Alike R) (interpret setting flow current first)
      (interpret setting flow current second) := by
  unfold interpret
  rw [← h.stack, ← Selection.nextNode_congr (hservices.values h.conversation)]
  have hnext := Selection.steady_nextNode hservices.steady.evaluator current flow first.stack
    first.conversation
  refine related_bind hnext.related ?_
  rintro next _ rfl
  cases next with
  | none => exact related_pure ⟨h, rfl⟩
  | some node =>
    refine related_bind (Interpreter.related_run hservices h.conversation flow node _) ?_
    rintro ran _ rfl
    rcases ran with error | ⟨outcome, after⟩
    · exact related_pure ⟨⟨rfl, h.conversation, h.events⟩, rfl⟩
    · have hadvance := alike_advance hservices h after outcome.events
      cases outcome with
      | proceed events => exact related_pure ⟨hadvance, rfl⟩
      | pause action metadata =>
        refine related_pure ⟨hadvance, ?_⟩
        rw [hadvance.events]

theorem related_iterate (h : first.Alike R second) :
    Related (Alike R) (iterate setting first) (iterate setting second) := by
  have hwaiting : first.waiting = second.waiting := by
    unfold Progress.waiting
    rw [h.events]
  unfold iterate
  rw [← h.stack, ← hwaiting]
  split
  · exact related_pure ⟨h, rfl⟩
  · split
    · split
      · exact related_pure ⟨h, rfl⟩
      · split
        · exact related_pure ⟨h, rfl⟩
        · exact related_interpret hservices h _ _
    · exact related_pure ⟨h, rfl⟩

theorem related_loop (ceiling rounds : Nat) (h : first.Alike R second) :
    Related (Alike R) (loop setting ceiling rounds first) (loop setting ceiling rounds second) := by
  induction rounds generalizing first second with
  | zero =>
    intro asked asked'
    refine ⟨h, ?_⟩
    unfold loop
    rw [h.stack]
  | succ rounds ih =>
    intro asked asked'
    have halike := related_iterate hservices h asked asked'
    unfold loop
    generalize iterate setting first asked = one at halike ⊢
    generalize iterate setting second asked' = other at halike ⊢
    obtain ⟨⟨next, result⟩, log⟩ := one
    obtain ⟨⟨next', result'⟩, log'⟩ := other
    obtain ⟨hnext, rfl⟩ := halike
    cases result with
    | none => exact ih hnext log log'
    | some result => exact ⟨hnext, rfl⟩

/-- Turns of related conversations come to the same and leave the same stack. -/
theorem related_selectAction (ceiling : Nat) (stack : Stack) {first second : Conversation}
    (h : R first second) : Related Eq (selectAction setting ceiling stack first)
      (selectAction setting ceiling stack second) := by
  have hstart : (Progress.mk stack first []).Alike R ⟨stack, second, []⟩ := ⟨rfl, h, rfl⟩
  refine related_bind (related_loop hservices ceiling ceiling hstart) ?_
  rintro ⟨progress, result⟩ ⟨_, _⟩ ⟨hprogress, rfl⟩
  refine related_pure ?_
  rw [hprogress.stack]

omit hservices in
/-- With steady services a turn comes to the same whatever was asked before. -/
theorem steady_selectAction (h : setting.services.Steady) (ceiling : Nat) (stack : Stack)
    (conversation : Conversation) :
    Asking.Steady (selectAction setting ceiling stack conversation) :=
  related_selectAction h.indistinct ceiling stack rfl

end Turn

end DialogueFlow
