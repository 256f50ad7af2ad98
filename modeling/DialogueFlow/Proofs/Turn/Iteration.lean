/-
  One iteration of a turn and whole turns. It begins at a node of the flow on top, or it halts
  (`at_or_halts`), and it keeps to the rules of `Iteration` (`iterate_iteration`). `loop_cases`:
  what iterations keep holds at the end of a turn, which either tripped the breaker there or ended
  with what an iteration gave.
-/
import DialogueFlow.Turn
import DialogueFlow.Proofs.Turn.Effect

namespace DialogueFlow.Turn

/-- The stack has a frame of a flow on top, whose cursor is at the node. -/
structure At (catalog : Catalog) (stack : Stack) (top : Frame) (below : Stack) (flow : Flow)
    (current : Node) : Prop where
  stack_eq : stack = top :: below
  isFlow : top.kind.isFlow = true
  flow_eq : catalog.flow? top.flowId = some flow
  node_eq : flow.node? top.stepId = some current

/-- No frame of a flow is on top: the turn is over. -/
def Idle (stack : Stack) : Prop := ∀ top below, stack = top :: below → top.kind.isFlow = false

/-- The same flow, node and frames are on top. -/
theorem At.unique {catalog : Catalog} {stack below below' : Stack} {top top' : Frame}
    {flow flow' : Flow} {current current' : Node} (h : At catalog stack top below flow current)
    (h' : At catalog stack top' below' flow' current') :
    top = top' ∧ below = below' ∧ flow = flow' ∧ current = current' := by
  obtain ⟨rfl, rfl⟩ := List.cons.inj (h.stack_eq.symm.trans h'.stack_eq)
  obtain rfl := Option.some.inj (h.flow_eq.symm.trans h'.flow_eq)
  exact ⟨rfl, rfl, rfl, Option.some.inj (h.node_eq.symm.trans h'.node_eq)⟩

section

variable {catalog : Catalog} {stack below : Stack} {top : Frame} {flow : Flow} {current : Node}

theorem At.context_eq (h : At catalog stack top below flow current) :
    stack.context = top.context.getD [] := by
  rw [h.stack_eq]
  rfl

/-- Moving the cursor changes the step of the frame on top, and no other frame. -/
theorem At.moveTo_eq (h : At catalog stack top below flow current) (id : String) :
    stack.moveTo id = { top with stepId := id } :: below := by
  rw [h.stack_eq]
  rfl

theorem At.moved (h : At catalog stack top below flow current) {id : String} {node : Node}
    (hnode : flow.node? id = some node) :
    At catalog (stack.moveTo id) { top with stepId := id } below flow node :=
  ⟨h.moveTo_eq id, h.isFlow, h.flow_eq, hnode⟩

end

/-- What one iteration can come to: where the turn stands after it, and its result if it ended. -/
inductive Iteration (setting : Setting) (progress : Progress) :
    Progress × Option (Except FlowError Prediction) → Prop
  | idle (hidle : Idle progress.stack) :
      Iteration setting progress (progress, some (.ok progress.waiting))
  | unknownFlow {top : Frame} {below : Stack} (hstack : progress.stack = top :: below)
      (hkind : top.kind.isFlow = true) (hflow : setting.catalog.flow? top.flowId = none) :
      Iteration setting progress (progress, some (.error (.unknownFlow top.flowId)))
  | unknownStep {top : Frame} {below : Stack} {flow : Flow} (hstack : progress.stack = top :: below)
      (hkind : top.kind.isFlow = true) (hflow : setting.catalog.flow? top.flowId = some flow)
      (hnode : flow.node? top.stepId = none) :
      Iteration setting progress (progress, some (.error (.unknownStep flow.id top.stepId)))
  /-- No node comes next; the cursor stays. -/
  | stalled {top : Frame} {below : Stack} {flow : Flow} {current : Node} {asked : List Question}
      (hat : At setting.catalog progress.stack top below flow current)
      (hnext : (Selection.nextNode setting.services current flow progress.stack
        progress.conversation asked).1 = none) :
      Iteration setting progress (progress, none)
  | failed {top : Frame} {below : Stack} {flow : Flow} {current node : Node}
      {asked : List Question} {cause : FlowError}
      (hat : At setting.catalog progress.stack top below flow current)
      (hnext : (Selection.nextNode setting.services current flow progress.stack
        progress.conversation asked).1 = some node)
      (heffect : Interpreter.Effect setting flow (progress.stack.moveTo node.id)
        progress.conversation node (.error cause)) :
      Iteration setting progress
        ({ progress with stack := progress.stack.moveTo node.id }, some (.error cause))
  | proceeded {top : Frame} {below : Stack} {flow : Flow} {current node : Node}
      {asked : List Question} {events : List Event} {stack : Stack}
      (hat : At setting.catalog progress.stack top below flow current)
      (hnext : (Selection.nextNode setting.services current flow progress.stack
        progress.conversation asked).1 = some node)
      (heffect : Interpreter.Effect setting flow (progress.stack.moveTo node.id)
        progress.conversation node (.ok (.proceed events, stack))) :
      Iteration setting progress (progress.advance stack events, none)
  | paused {top : Frame} {below : Stack} {flow : Flow} {current node : Node}
      {asked : List Question} {action : String} {metadata : Option (Table Json)} {stack : Stack}
      (hat : At setting.catalog progress.stack top below flow current)
      (hnext : (Selection.nextNode setting.services current flow progress.stack
        progress.conversation asked).1 = some node)
      (heffect : Interpreter.Effect setting flow (progress.stack.moveTo node.id)
        progress.conversation node (.ok (.pause action metadata, stack))) :
      Iteration setting progress (progress.advance stack [],
        some (.ok (.certain action (progress.events ++ []) metadata)))

variable {setting : Setting}

theorem interpret_iteration {progress : Progress} {top : Frame} {below : Stack} {flow : Flow}
    {current : Node} (hat : At setting.catalog progress.stack top below flow current)
    (asked : List Question) :
    Iteration setting progress (interpret setting flow current progress asked).1 := by
  unfold interpret
  rw [Asking.bind_apply]
  cases hnext : (Selection.nextNode setting.services current flow progress.stack
      progress.conversation asked).1 with
  | none => exact .stalled hat hnext
  | some node =>
    generalize (Selection.nextNode setting.services current flow progress.stack
      progress.conversation asked).2 = asked'
    have heffect := Interpreter.run_effect setting flow node (progress.stack.moveTo node.id)
      progress.conversation asked'
    dsimp only
    rw [Asking.bind_apply]
    cases hrun : (Interpreter.run setting flow node (progress.stack.moveTo node.id)
        progress.conversation asked').1 with
    | error cause => exact .failed hat hnext (hrun ▸ heffect)
    | ok done =>
      rw [hrun] at heffect
      obtain ⟨outcome, stack⟩ := done
      cases outcome with
      | proceed events => exact .proceeded hat hnext heffect
      | pause action metadata => exact .paused hat hnext heffect

theorem iterate_at {progress : Progress} {top : Frame} {below : Stack} {flow : Flow}
    {current : Node} (hat : At setting.catalog progress.stack top below flow current)
    (asked : List Question) :
    iterate setting progress asked = interpret setting flow current progress asked := by
  unfold iterate
  rw [hat.stack_eq]
  dsimp only
  rw [if_pos hat.isFlow, hat.flow_eq]
  dsimp only
  rw [hat.node_eq]

/-- Where an iteration ends the turn before it looks for a node, and the result. -/
inductive Halts (catalog : Catalog) (progress : Progress) : Except FlowError Prediction → Prop
  | idle (hidle : Idle progress.stack) : Halts catalog progress (.ok progress.waiting)
  | unknownFlow {top : Frame} {below : Stack} (hstack : progress.stack = top :: below)
      (hkind : top.kind.isFlow = true) (hflow : catalog.flow? top.flowId = none) :
      Halts catalog progress (.error (.unknownFlow top.flowId))
  | unknownStep {top : Frame} {below : Stack} {flow : Flow} (hstack : progress.stack = top :: below)
      (hkind : top.kind.isFlow = true) (hflow : catalog.flow? top.flowId = some flow)
      (hnode : flow.node? top.stepId = none) :
      Halts catalog progress (.error (.unknownStep flow.id top.stepId))

/-- A turn stands at a node of the flow on top, or it halts. -/
theorem at_or_halts (catalog : Catalog) (progress : Progress) :
    (∃ top below flow current, At catalog progress.stack top below flow current) ∨
      ∃ result, Halts catalog progress result := by
  cases hstack : progress.stack with
  | nil => exact Or.inr ⟨_, .idle fun top below h => nomatch hstack.symm.trans h⟩
  | cons top below =>
    cases hkind : top.kind.isFlow with
    | false =>
      refine Or.inr ⟨_, .idle fun other rest h => ?_⟩
      obtain ⟨rfl, -⟩ := List.cons.inj (hstack.symm.trans h)
      exact hkind
    | true =>
      cases hflow : catalog.flow? top.flowId with
      | none => exact Or.inr ⟨_, .unknownFlow hstack hkind hflow⟩
      | some flow =>
        cases hnode : flow.node? top.stepId with
        | none => exact Or.inr ⟨_, .unknownStep hstack hkind hflow hnode⟩
        | some current => exact Or.inl ⟨top, below, flow, current, rfl, hkind, hflow, hnode⟩

section

variable {progress : Progress} {result : Except FlowError Prediction}

theorem Halts.iterate_eq (h : Halts setting.catalog progress result) (asked : List Question) :
    iterate setting progress asked = ((progress, some result), asked) := by
  unfold iterate
  cases h with
  | idle hidle =>
    cases hstack : progress.stack with
    | nil => rfl
    | cons top below =>
      have hkind := hidle top below hstack
      simp only [hkind, Bool.false_eq_true, if_false]
      rfl
  | unknownFlow hstack hkind hflow =>
    simp only [hstack, hkind, hflow, if_true]
    rfl
  | unknownStep hstack hkind hflow hnode =>
    simp only [hstack, hkind, hflow, hnode, if_true]
    rfl

theorem Halts.iteration (h : Halts setting.catalog progress result) :
    Iteration setting progress (progress, some result) := by
  cases h with
  | idle hidle => exact .idle hidle
  | unknownFlow hstack hkind hflow => exact .unknownFlow hstack hkind hflow
  | unknownStep hstack hkind hflow hnode => exact .unknownStep hstack hkind hflow hnode

end

/-- An iteration keeps to the rules. -/
theorem iterate_iteration (setting : Setting) (progress : Progress) (asked : List Question) :
    Iteration setting progress (iterate setting progress asked).1 := by
  rcases at_or_halts setting.catalog progress with
    ⟨top, below, flow, current, hat⟩ | ⟨result, hhalts⟩
  · rw [iterate_at hat]
    exact interpret_iteration hat asked
  · rw [hhalts.iterate_eq]
    exact hhalts.iteration

/-! ## Whole turns -/

theorem loop_succ (ceiling rounds : Nat) (progress : Progress) (asked : List Question) :
    loop setting ceiling (rounds + 1) progress asked =
      match iterate setting progress asked with
      | ((progress, none), asked) => loop setting ceiling rounds progress asked
      | ((progress, some result), asked) => ((progress, result), asked) := rfl

/-- What iterations keep holds where the turn stops. It stops with the breaker, or with the result
of an iteration. -/
theorem loop_cases {P : Progress → Prop}
    (hstep : ∀ progress outcome, P progress → Iteration setting progress outcome → P outcome.1)
    (ceiling rounds : Nat) (progress : Progress) (hprogress : P progress) (asked : List Question) :
    let ended := (loop setting ceiling rounds progress asked).1
    P ended.1 ∧ (ended.2 = .error (.circuitBreakerTripped ended.1.stack (ceiling + 1)) ∨
      ∃ before, P before ∧ Iteration setting before (ended.1, some ended.2)) := by
  induction rounds generalizing progress asked with
  | zero => exact ⟨hprogress, Or.inl rfl⟩
  | succ rounds ih =>
    have hiteration := iterate_iteration setting progress asked
    rw [loop_succ]
    split
    · rename_i next asked' hnext
      rw [hnext] at hiteration
      exact ih next (hstep _ _ hprogress hiteration) asked'
    · rename_i next result asked' hnext
      rw [hnext] at hiteration
      exact ⟨hstep _ _ hprogress hiteration, Or.inr ⟨progress, hprogress, hiteration⟩⟩

theorem selectAction_apply (ceiling : Nat) (stack : Stack) (conversation : Conversation)
    (asked : List Question) :
    selectAction setting ceiling stack conversation asked =
      let ended := loop setting ceiling ceiling ⟨stack, conversation, []⟩ asked
      ((ended.1.1.stack, ended.1.2), ended.2) := rfl

/-- A turn from a stack with frames is its loop, and then the stack is persisted. -/
theorem advance_apply {conversation : Conversation} {stack : Stack}
    (hstack : Stack.ofConversation conversation = .ok stack) (hframes : stack ≠ [])
    (domain : Domain) (catalog : Catalog) (services : Services) (ceiling : Nat)
    (asked : List Question) :
    (advance conversation domain catalog services ceiling asked).1 =
      let ended := (loop ⟨catalog, domain.actionNames, services⟩ ceiling ceiling
        ⟨stack, conversation, []⟩ asked).1
      ended.2.map (persisting stack ended.1.stack) := by
  unfold advance
  rw [hstack]
  cases stack with
  | nil => exact absurd rfl hframes
  | cons top below => rfl

/-- A turn that hands back a prediction has read a stack. From a stack with frames, the prediction is
that of its loop, after which the stack is persisted. -/
theorem advance_cases {conversation : Conversation} {domain : Domain} {catalog : Catalog}
    {services : Services} {ceiling : Nat} {asked : List Question} {prediction : Prediction}
    (h : (advance conversation domain catalog services ceiling asked).1 = .ok prediction) :
    ∃ stack, Stack.ofConversation conversation = .ok stack ∧
      (stack = [] ∧ prediction = .nothing ∨ stack ≠ [] ∧ ∃ plain,
        let ended := (loop ⟨catalog, domain.actionNames, services⟩ ceiling ceiling
          ⟨stack, conversation, []⟩ asked).1
        ended.2 = .ok plain ∧ prediction = persisting stack ended.1.stack plain) := by
  cases hstack : Stack.ofConversation conversation with
  | error cause =>
    unfold advance at h
    rw [hstack] at h
    cases h
  | ok stack =>
    refine ⟨stack, rfl, ?_⟩
    by_cases hframes : stack = []
    · unfold advance at h
      rw [hstack, hframes] at h
      cases h
      exact Or.inl ⟨hframes, rfl⟩
    · rw [advance_apply hstack hframes] at h
      dsimp only at h
      refine Or.inr ⟨hframes, ?_⟩
      cases hplain : (loop ⟨catalog, domain.actionNames, services⟩ ceiling ceiling
          ⟨stack, conversation, []⟩ asked).1.2 with
      | error cause =>
        rw [hplain] at h
        cases h
      | ok plain =>
        rw [hplain] at h
        cases h
        exact ⟨plain, hplain, rfl⟩

end DialogueFlow.Turn
