/-
  Cursors stay where they can be interpreted. A frame of a flow is placed when its flow is in the
  catalog and its cursor is at the start or at a declared step. Every step of a turn keeps the
  frames placed (`Iteration.derivedFrom`), so a turn can fail only over the action of a step or by
  the breaker. Main statement: `session_turn_placed`, for a turn after any number of turns and of
  frames pushed in between.
-/
import DialogueFlow.Proofs.Catalog.Loading
import DialogueFlow.Proofs.Catalog.Merge
import DialogueFlow.Proofs.Turn.Iteration
import DialogueFlow.Proofs.Turn.Selection
import DialogueFlow.Scripted

namespace DialogueFlow

/-- The error is about the action that a step names. -/
def FlowError.isOfAction : FlowError → Bool
  | .missingAction .. | .templateFailed .. => true
  | _ => false

theorem FlowError.isOfAction_iff {cause : FlowError} : cause.isOfAction = true ↔
    (∃ flowId stepId, cause = .missingAction flowId stepId) ∨
      ∃ template reason, cause = .templateFailed template reason := by
  cases cause <;> simp [isOfAction]

/-- A sound catalog in which every built-in flow is found, be it replaced. -/
structure Catalog.Executable (catalog : Catalog) : Prop where
  sound : catalog.Sound
  patterns : ∀ flow ∈ Pattern.flows, (catalog.flow? flow.id).isSome

theorem Pattern.executable_addTo {catalog : Catalog} (h : catalog.Sound) :
    (addTo catalog).Executable where
  sound := sound_addTo h
  patterns := fun _ hflow => isSome_flow?_addTo catalog hflow

/-! ## Placed frames -/

/-- The frame names a flow of the catalog and its cursor is a cursor of that flow. -/
def Frame.Stands (catalog : Catalog) (frame : Frame) : Prop :=
  ∃ flow, catalog.flow? frame.flowId = some flow ∧ flow.IsCursor frame.stepId

/-- A frame of a flow stands in the catalog; the markers of other policies may be anything. -/
def Frame.Placed (catalog : Catalog) (frame : Frame) : Prop :=
  frame.kind.isFlow = true → frame.Stands catalog

theorem Frame.stands_start {catalog : Catalog} {frame : Frame} (hstart : frame.stepId = startId)
    (hflow : (catalog.flow? frame.flowId).isSome) : frame.Stands catalog := by
  obtain ⟨flow, hflow⟩ := Option.isSome_iff_exists.mp hflow
  exact ⟨flow, hflow, Or.inl hstart⟩

/-- A cursor of a sound flow is never at the end. -/
theorem Frame.Stands.ne_endId {catalog : Catalog} (hcatalog : catalog.Sound) {frame : Frame}
    (h : frame.Stands catalog) : frame.stepId ≠ endId := by
  obtain ⟨flow, hflow, hstart | ⟨step, hstep, hid⟩⟩ := h
  · rw [hstart]
    decide
  · rw [← hid]
    exact DialogueFlow.ne_endId ((hcatalog.flows flow (Catalog.mem_of_flow? hflow)).free step hstep)

namespace Stack

def Placed (catalog : Catalog) (stack : Stack) : Prop := ∀ frame ∈ stack, frame.Placed catalog

/-- Each frame was there before, or is a frame of a flow and stands in the catalog. -/
def DerivedFrom (catalog : Catalog) (origin stack : Stack) : Prop :=
  ∀ frame ∈ stack, frame ∈ origin ∨ frame.kind.isFlow = true ∧ frame.Stands catalog

variable {catalog : Catalog} {origin stack : Stack}

theorem placed_nil (catalog : Catalog) : Placed catalog [] := fun _ hframe => nomatch hframe

/-- A frame at the start of a flow of the catalog may be pushed. -/
theorem Placed.push (h : Placed catalog stack) {frame : Frame} (hstart : frame.stepId = startId)
    (hflow : (catalog.flow? frame.flowId).isSome) : Placed catalog (stack.push frame) :=
  List.forall_mem_cons.mpr ⟨fun _ => Frame.stands_start hstart hflow, h⟩

theorem derivedFrom_refl (catalog : Catalog) (stack : Stack) : DerivedFrom catalog stack stack :=
  fun _ hframe => Or.inl hframe

theorem DerivedFrom.trans {later : Stack} (h : DerivedFrom catalog origin stack)
    (hlater : DerivedFrom catalog stack later) : DerivedFrom catalog origin later := by
  intro frame hframe
  rcases hlater frame hframe with hold | hnew
  · exact h frame hold
  · exact Or.inr hnew

theorem DerivedFrom.placed (h : DerivedFrom catalog origin stack)
    (horigin : Placed catalog origin) :
    Placed catalog stack := by
  intro frame hframe
  rcases h frame hframe with hold | ⟨-, hstands⟩
  · exact horigin frame hold
  · exact fun _ => hstands

theorem derivedFrom_push {frame : Frame} (hkind : frame.kind.isFlow = true)
    (hframe : frame.Stands catalog) : DerivedFrom catalog stack (stack.push frame) := by
  intro other hother
  rcases List.mem_cons.mp hother with rfl | hother
  · exact Or.inr ⟨hkind, hframe⟩
  · exact Or.inl hother

theorem derivedFrom_pushBelowTop {frame : Frame} (hkind : frame.kind.isFlow = true)
    (hframe : frame.Stands catalog) : DerivedFrom catalog stack (stack.pushBelowTop frame) := by
  intro other hother
  have hmem : other = frame ∨ other ∈ stack := by
    cases stack with
    | nil => exact Or.inl (List.mem_singleton.mp hother)
    | cons top below =>
      simp only [pushBelowTop, List.mem_cons] at hother ⊢
      tauto
  rcases hmem with rfl | hmem
  · exact Or.inr ⟨hkind, hframe⟩
  · exact Or.inl hmem

theorem derivedFrom_moveTo {top : Frame} {below : Stack} {id : String}
    (hkind : top.kind.isFlow = true) (htop : Frame.Stands catalog { top with stepId := id }) :
    DerivedFrom catalog (top :: below) (moveTo (top :: below) id) := by
  intro frame hframe
  rcases List.mem_cons.mp hframe with rfl | hframe
  · exact Or.inr ⟨hkind, htop⟩
  · exact Or.inl (List.mem_cons_of_mem _ hframe)

theorem derivedFrom_tail (catalog : Catalog) (top : Frame) (below : Stack) :
    DerivedFrom catalog (top :: below) below :=
  fun _ hframe => Or.inl (List.mem_cons_of_mem _ hframe)

end Stack

/-! ## One iteration -/

namespace Catalog.Executable

variable {catalog : Catalog} (hcatalog : catalog.Executable)
include hcatalog

theorem stands_collectFrame (slot utter : String) (rejections : List Rejection) :
    (Pattern.collectFrame slot utter rejections).Stands catalog :=
  Frame.stands_start rfl (hcatalog.patterns _ Pattern.collectFlow_mem)

theorem derivedFrom_afterInterrupt (ended : Frame) (stack : Stack) :
    stack.DerivedFrom catalog (Pattern.afterInterrupt ended stack catalog) := by
  rcases Pattern.afterInterrupt_cases ended stack catalog with h | ⟨-, flow, -, h⟩ <;> rw [h]
  · exact Stack.derivedFrom_refl catalog stack
  · exact Stack.derivedFrom_push rfl
      (Frame.stands_start rfl (hcatalog.patterns _ Pattern.continueFlow_mem))

theorem derivedFrom_afterLast (ended : Frame) (stack : Stack) :
    stack.DerivedFrom catalog (Pattern.afterLast ended stack catalog) := by
  rcases Pattern.afterLast_cases ended stack catalog with h | ⟨rfl, -, h⟩ <;> rw [h]
  · exact Stack.derivedFrom_refl catalog stack
  · exact Stack.derivedFrom_push rfl
      (Frame.stands_start rfl (hcatalog.patterns _ Pattern.completedFlow_mem))

end Catalog.Executable

namespace Interpreter.Effect

variable {setting : Setting} {flow : Flow} {stack after : Stack} {conversation : Conversation}

/-- A declared step keeps all frames and may add one at the start of a flow. -/
theorem step_derivedFrom (hcatalog : setting.catalog.Executable) (hflow : flow ∈ setting.catalog)
    {step : Step} (hstep : step ∈ flow.declared) {outcome : Outcome}
    (h : Effect setting flow stack conversation (.step step) (.ok (outcome, after))) :
    stack.DerivedFrom setting.catalog after := by
  cases h with
  | collected htask => exact Stack.derivedFrom_push rfl (hcatalog.stands_collectFrame _ _ _)
  | linked htask =>
    exact Stack.derivedFrom_pushBelowTop rfl
      (Frame.stands_start rfl (hcatalog.sound.linked flow hflow step hstep _ htask))
  | _ => exact Stack.derivedFrom_refl _ _

/-- The end of a flow drops the top frame and may add a frame of a pattern. -/
theorem finish_derivedFrom (hcatalog : setting.catalog.Executable) {outcome : Outcome}
    (h : Effect setting flow stack conversation .finish (.ok (outcome, after))) :
    Stack.DerivedFrom setting.catalog stack.tail after := by
  cases h with
  | ended hstack =>
    subst hstack
    exact (hcatalog.derivedFrom_afterInterrupt _ _).trans (hcatalog.derivedFrom_afterLast _ _)

/-- A node that may be interpreted fails only when it is a step, and over its action. -/
theorem isOfAction {node : Node} {cause : FlowError} (hnode : flow.CanRun node)
    (hstack : stack ≠ []) (h : Effect setting flow stack conversation node (.error cause)) :
    cause.isOfAction = true ∧ ∃ step ∈ flow.declared, node = .step step := by
  rcases hnode with rfl | ⟨step, hstep, rfl⟩
  · cases h with
    | endedOnEmpty hempty => exact absurd hempty hstack
  · refine ⟨?_, step, hstep, rfl⟩
    cases h <;> rfl

end Interpreter.Effect

namespace Turn

variable {setting : Setting}

/-- A frame at the start of its flow, on others. -/
theorem at_start {progress : Progress} {frame : Frame} {base : Stack} {flow : Flow}
    (hflow : setting.catalog.flow? frame.flowId = some flow) (hkind : frame.kind.isFlow = true)
    (hstart : frame.stepId = startId) (hstack : progress.stack = frame :: base) :
    At setting.catalog progress.stack frame base flow (.start flow.firstId) := by
  refine ⟨hstack, hkind, hflow, ?_⟩
  rw [hstart]
  exact Flow.node?_startId flow

/-- The node at the cursor of a placed frame. -/
theorem At.hasCurrent (hcatalog : setting.catalog.Executable) {stack below : Stack} {top : Frame}
    {flow : Flow} {current : Node} (hplaced : stack.Placed setting.catalog)
    (h : At setting.catalog stack top below flow current) :
    flow ∈ setting.catalog ∧ flow.Sound ∧ flow.HasCurrent current ∧ current.id = top.stepId := by
  have hflow := Catalog.mem_of_flow? h.flow_eq
  have hsound := hcatalog.sound.flows flow hflow
  obtain ⟨found, hfound, hcursor⟩ := hplaced top (h.stack_eq ▸ List.mem_cons_self) h.isFlow
  obtain rfl : found = flow := Option.some.inj (hfound.symm.trans h.flow_eq)
  obtain ⟨node, hnode, hcurrent, hid⟩ := Flow.node?_cursor hsound hcursor
  obtain rfl : node = current := Option.some.inj (hnode.symm.trans h.node_eq)
  exact ⟨hflow, hsound, hcurrent, hid⟩

/-- Moving the cursor to a declared step keeps the stack placed. -/
theorem At.derivedFrom_moveTo {stack below : Stack} {top : Frame} {flow : Flow} {current : Node}
    (h : At setting.catalog stack top below flow current) {step : Step}
    (hstep : step ∈ flow.declared) :
    stack.DerivedFrom setting.catalog (stack.moveTo step.id) := by
  rw [h.stack_eq]
  exact Stack.derivedFrom_moveTo h.isFlow ⟨flow, h.flow_eq, Or.inr ⟨step, hstep, rfl⟩⟩

theorem canRun_of_next {flow : Flow} {current node : Node} {stack : Stack}
    {conversation : Conversation} {asked : List Question} (hflow : flow.Sound)
    (hcurrent : flow.HasCurrent current)
    (hnext : (Selection.nextNode setting.services current flow stack conversation asked).1 =
      some node) : flow.CanRun node := by
  rcases Selection.nextNode_some hflow hcurrent hnext with hfinish | ⟨step, hstep, rfl, -⟩
  · exact Or.inl hfinish
  · exact Or.inr ⟨step, hstep, rfl⟩

/-- What interpreting the next node leaves on a placed stack. -/
theorem At.derivedFrom_next (hcatalog : setting.catalog.Executable) {stack below after : Stack}
    {top : Frame} {flow : Flow} {current node : Node} {conversation : Conversation}
    {asked : List Question} {outcome : Outcome} (hplaced : stack.Placed setting.catalog)
    (h : At setting.catalog stack top below flow current)
    (hnext : (Selection.nextNode setting.services current flow stack conversation asked).1 =
      some node)
    (heffect : Interpreter.Effect setting flow (stack.moveTo node.id) conversation node
      (.ok (outcome, after))) :
    stack.DerivedFrom setting.catalog after := by
  obtain ⟨hflow, hsound, hcurrent, -⟩ := h.hasCurrent hcatalog hplaced
  rcases canRun_of_next hsound hcurrent hnext with rfl | ⟨step, hstep, rfl⟩
  · -- the moved top is at the end, but it is dropped
    have hafter := heffect.finish_derivedFrom hcatalog
    rw [h.moveTo_eq, List.tail_cons] at hafter
    rw [h.stack_eq]
    exact (Stack.derivedFrom_tail _ top below).trans hafter
  · exact (h.derivedFrom_moveTo hstep).trans (heffect.step_derivedFrom hcatalog hflow hstep)

/-- On a placed stack the next node fails only when it is a step, and over its action. -/
theorem At.isOfAction_next (hcatalog : setting.catalog.Executable) {stack below : Stack}
    {top : Frame} {flow : Flow} {current node : Node} {conversation : Conversation}
    {asked : List Question} {cause : FlowError} (hplaced : stack.Placed setting.catalog)
    (h : At setting.catalog stack top below flow current)
    (hnext : (Selection.nextNode setting.services current flow stack conversation asked).1 =
      some node)
    (heffect : Interpreter.Effect setting flow (stack.moveTo node.id) conversation node
      (.error cause)) :
    cause.isOfAction = true ∧ ∃ step ∈ flow.declared, node = .step step := by
  obtain ⟨-, hsound, hcurrent, -⟩ := h.hasCurrent hcatalog hplaced
  have hmoved : stack.moveTo node.id ≠ [] := by
    rw [h.moveTo_eq]
    exact List.cons_ne_nil _ _
  exact heffect.isOfAction (canRun_of_next hsound hcurrent hnext) hmoved

/-- An iteration keeps the frames of a placed stack placed. -/
theorem Iteration.derivedFrom (hcatalog : setting.catalog.Executable) {progress : Progress}
    (hplaced : progress.stack.Placed setting.catalog)
    {outcome : Progress × Option (Except FlowError Prediction)}
    (h : Iteration setting progress outcome) :
    progress.stack.DerivedFrom setting.catalog outcome.1.stack := by
  cases h with
  | failed hat hnext heffect =>
    obtain ⟨-, step, hstep, rfl⟩ := hat.isOfAction_next hcatalog hplaced hnext heffect
    exact hat.derivedFrom_moveTo hstep
  | proceeded hat hnext heffect => exact hat.derivedFrom_next hcatalog hplaced hnext heffect
  | paused hat hnext heffect => exact hat.derivedFrom_next hcatalog hplaced hnext heffect
  | _ => exact Stack.derivedFrom_refl _ _

theorem Iteration.placed (hcatalog : setting.catalog.Executable) {progress : Progress}
    (hplaced : progress.stack.Placed setting.catalog)
    {outcome : Progress × Option (Except FlowError Prediction)}
    (h : Iteration setting progress outcome) : outcome.1.stack.Placed setting.catalog :=
  (h.derivedFrom hcatalog hplaced).placed hplaced

/-- On a placed stack an iteration fails only over the action of a step. -/
theorem Iteration.isOfAction (hcatalog : setting.catalog.Executable) {progress after : Progress}
    (hplaced : progress.stack.Placed setting.catalog) {cause : FlowError}
    (h : Iteration setting progress (after, some (.error cause))) : cause.isOfAction = true := by
  cases h with
  | unknownFlow hstack hkind hflow =>
    obtain ⟨flow, hfound, -⟩ := hplaced _ (hstack ▸ List.mem_cons_self) hkind
    rw [hfound] at hflow
    cases hflow
  | unknownStep hstack hkind hflow hnode =>
    obtain ⟨found, hfound, hcursor⟩ := hplaced _ (hstack ▸ List.mem_cons_self) hkind
    obtain rfl := Option.some.inj (hfound.symm.trans hflow)
    obtain ⟨node, hnode', -⟩ :=
      Flow.node?_cursor (hcatalog.sound.flows _ (Catalog.mem_of_flow? hflow)) hcursor
    rw [hnode] at hnode'
    cases hnode'
  | failed hat hnext heffect =>
    exact (hat.isOfAction_next hcatalog hplaced hnext heffect).1

/-! ## Whole turns and sessions -/

/-- A turn keeps the frames of a placed stack placed, and fails only over the action of a step or by
the breaker, which carries the stack that the turn leaves. -/
theorem selectAction_placed (hcatalog : setting.catalog.Executable) {stack : Stack}
    (hplaced : stack.Placed setting.catalog) (ceiling : Nat) (conversation : Conversation)
    (asked : List Question) :
    let ran := (selectAction setting ceiling stack conversation asked).1
    stack.DerivedFrom setting.catalog ran.1 ∧ ∀ cause, ran.2 = .error cause →
      cause.isOfAction = true ∨ cause = .circuitBreakerTripped ran.1 (ceiling + 1) := by
  rw [selectAction_apply]
  have hstep : ∀ progress outcome, stack.DerivedFrom setting.catalog progress.stack →
      Iteration setting progress outcome → stack.DerivedFrom setting.catalog outcome.1.stack :=
    fun progress outcome hprogress hiteration =>
      hprogress.trans (hiteration.derivedFrom hcatalog (hprogress.placed hplaced))
  obtain ⟨hended, hresult⟩ := loop_cases hstep ceiling ceiling ⟨stack, conversation, []⟩
    (Stack.derivedFrom_refl setting.catalog stack) asked
  refine ⟨hended, fun cause hcause => ?_⟩
  dsimp only at hcause
  rcases hresult with htripped | ⟨before, hbefore, hiteration⟩
  · rw [htripped, Except.error.injEq] at hcause
    exact Or.inr hcause.symm
  · rw [hcause] at hiteration
    exact Or.inl (hiteration.isOfAction hcatalog (hbefore.placed hplaced))

/-- The stacks that turns leave behind, with frames at the start of flows pushed in between. -/
inductive Session (catalog : Catalog) (first : Stack) : Stack → Prop
  | begin : Session catalog first first
  | push {stack : Stack} (h : Session catalog first stack) (flowId : String) (kind : FrameKind)
      (context : Option (Table Json)) (hflow : (catalog.flow? flowId).isSome) :
      Session catalog first (stack.push { Frame.atStart flowId kind with context })
  /-- What is available, the services and the conversation may differ from turn to turn. -/
  | turn {stack : Stack} (h : Session catalog first stack) (actions : List String)
      (services : Services) (ceiling : Nat) (conversation : Conversation) (asked : List Question) :
      Session catalog first
        (selectAction ⟨catalog, actions, services⟩ ceiling stack conversation asked).1.1

theorem Session.placed {catalog : Catalog} (hcatalog : catalog.Executable) {first stack : Stack}
    (hfirst : first.Placed catalog) (h : Session catalog first stack) : stack.Placed catalog := by
  induction h with
  | begin => exact hfirst
  | push _ flowId kind context hflow ih => exact ih.push rfl hflow
  | turn _ actions services ceiling conversation asked ih =>
    exact (selectAction_placed hcatalog ih ceiling conversation asked).1.placed ih

/-- At any time in a session over a loaded catalog, a turn leaves every frame placed and none of a
flow at the end, and fails only over the action of a step or by the breaker. -/
theorem session_turn_placed {text : String} {declared : Catalog}
    (hload : Catalog.load text = .ok declared) {first stack : Stack}
    (hfirst : first.Placed (Pattern.addTo declared))
    (hsession : Session (Pattern.addTo declared) first stack) (actions : List String)
    (services : Services) (ceiling : Nat) (conversation : Conversation) (asked : List Question) :
    let ran := (selectAction ⟨Pattern.addTo declared, actions, services⟩ ceiling stack conversation
      asked).1
    ran.1.Placed (Pattern.addTo declared) ∧
    (∀ frame ∈ ran.1, frame.stepId = endId → frame.kind.isFlow = false ∧ frame ∈ stack) ∧
    ∀ cause, ran.2 = .error cause →
      ((∃ flowId stepId, cause = .missingAction flowId stepId) ∨
        ∃ template reason, cause = .templateFailed template reason) ∨
      cause = .circuitBreakerTripped ran.1 (ceiling + 1) := by
  have hcatalog : (Setting.mk (Pattern.addTo declared) actions services).catalog.Executable :=
    Pattern.executable_addTo (Catalog.sound_of_load hload)
  have hplaced := hsession.placed hcatalog hfirst
  obtain ⟨hderived, herror⟩ := selectAction_placed hcatalog hplaced ceiling conversation asked
  refine ⟨hderived.placed hplaced, fun frame hframe hend => ?_, fun cause hcause => ?_⟩
  · rcases hderived frame hframe with hold | ⟨-, hstands⟩
    · cases hkind : frame.kind.isFlow with
      | false => exact ⟨rfl, hold⟩
      | true => exact absurd hend ((hplaced frame hold hkind).ne_endId hcatalog.sound)
    · exact absurd hend (hstands.ne_endId hcatalog.sound)
  · exact (herror cause hcause).imp_left FlowError.isOfAction_iff.mp

/-- The order flow is started, and after a turn the payment interrupts it. -/
theorem order_turn_placed :
    let conversation := Conversation.fresh "user" .empty
    let setting : Setting := ⟨Pattern.addTo Catalog.order, Domain.builtIn,
      ⟨Scripted.evaluator [] false, Scripted.generator none⟩⟩
    let started : Stack := [.atStart "order" .regular]
    let waiting := (selectAction setting 9 started conversation []).1.1
    let interrupted := waiting.push (.atStart "pay" .interrupt)
    Catalog.load Catalog.orderText = .ok Catalog.order ∧
    Session setting.catalog [] interrupted ∧
    (selectAction setting 9 interrupted conversation []).1.1.Placed setting.catalog := by
  intro conversation setting started waiting interrupted
  have hstarted : Session setting.catalog [] started :=
    .push .begin "order" .regular none (by decide)
  have hwaiting : Session setting.catalog [] waiting :=
    .turn hstarted setting.actions setting.services 9 conversation []
  have hinterrupted : Session setting.catalog [] interrupted :=
    .push hwaiting "pay" .interrupt none (by decide)
  exact ⟨Catalog.load_order, hinterrupted,
    (session_turn_placed Catalog.load_order (Stack.placed_nil _) hinterrupted setting.actions
      setting.services 9 conversation []).1⟩

end Turn

end DialogueFlow
