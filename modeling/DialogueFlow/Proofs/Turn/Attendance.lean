/-
  Frames that wait for a slot. A frame at a collect step waits, and the frame that asks for the slot
  is directly above it (`Stack.Attended`). Every step of a turn keeps the stack attended; a frame
  that waits comes to the top only when the frame above it ended because the slot is filled
  (`Iteration.kept`), and no frame on top waits when a turn has ended (`Iteration.kept_end`).
-/
import DialogueFlow.Proofs.Catalog.Cycles
import DialogueFlow.Proofs.Turn.CollectPattern
import DialogueFlow.Proofs.Turn.Placement

namespace DialogueFlow

/-- The frame by which a step asks for a slot. -/
def Step.asking? (step : Step) : Option Frame :=
  match step.task with
  | .collect slot utter rejections _ _ =>
    some (Pattern.collectFrame slot (utter.getD (Interpreter.defaultUtter slot)) rejections)
  | _ => none

/-- The frame by which a node asks for a slot. -/
def Node.asking? : Node → Option Frame
  | .step declared => declared.asking?
  | _ => none

namespace Frame

/-- The frame that asks for the slot that a frame waits for, at its start. -/
def awaited? (catalog : Catalog) (frame : Frame) : Option Frame :=
  if frame.kind.isFlow then
    (catalog.flow? frame.flowId).bind fun flow => (flow.node? frame.stepId).bind Node.asking?
  else none

/-- The frame at its start, if it asks for a slot. -/
def asked? (frame : Frame) : Option Frame :=
  if frame.flowId = Pattern.collectId ∧
      (Table.get? (frame.context.getD []) "collect").isSome then
    some { frame with stepId := startId }
  else none

/-- The frame asks for this slot. -/
def AsksFor (frame : Frame) (slot : String) : Prop :=
  frame.flowId = Pattern.collectId ∧
    Table.get? (frame.context.getD []) "collect" = some (.str slot)

theorem AsksFor.asked? {frame : Frame} {slot : String} (h : frame.AsksFor slot) :
    frame.asked? = some { frame with stepId := startId } := by
  unfold Frame.asked?
  rw [if_pos ⟨h.1, by rw [h.2]; rfl⟩]

/-- What a frame asks for at its start it asks for. -/
theorem AsksFor.of_asked? {frame asking : Frame} {slot : String} (h : asking.AsksFor slot)
    (hasked : frame.asked? = some asking) : frame.AsksFor slot := by
  unfold Frame.asked? at hasked
  split at hasked
  · cases hasked
    exact h
  · cases hasked

theorem asked?_moved (frame : Frame) (stepId : String) :
    asked? { frame with stepId } = frame.asked? := rfl

theorem asked?_continueFrame (name : String) : (Pattern.continueFrame name).asked? = none :=
  if_neg fun h => absurd h.1 (show Pattern.continueId ≠ Pattern.collectId by decide)

theorem asked?_completedFrame (name : Option String) :
    (Pattern.completedFrame name).asked? = none :=
  if_neg fun h => absurd h.1 (show Pattern.completedId ≠ Pattern.collectId by decide)

/-- A frame without a context asks for nothing. -/
theorem asked?_atStart (flowId : String) (kind : FrameKind) :
    (atStart flowId kind).asked? = none :=
  if_neg fun h => nomatch h.2

theorem flowId_of_asked? {frame asking : Frame} (h : frame.asked? = some asking) :
    frame.flowId = Pattern.collectId := by
  unfold asked? at h
  split at h
  · rename_i hasks
    exact hasks.1
  · cases h

variable {catalog : Catalog}

/-- A frame at the start of its flow waits for nothing. -/
theorem awaited?_start {frame : Frame} (h : frame.stepId = startId) :
    frame.awaited? catalog = none := by
  unfold awaited?
  split
  · cases catalog.flow? frame.flowId with
    | none => rfl
    | some flow => rw [h, Option.bind_some, Flow.node?_startId]; rfl
  · rfl

theorem awaited?_eq_some {frame asking : Frame} (h : frame.awaited? catalog = some asking) :
    frame.kind.isFlow = true ∧ ∃ flow step, catalog.flow? frame.flowId = some flow ∧
      flow.node? frame.stepId = some (.step step) ∧ step.asking? = some asking := by
  unfold awaited? at h
  split at h
  · rename_i hkind
    obtain ⟨flow, hflow, h⟩ := Option.bind_eq_some_iff.mp h
    obtain ⟨node, hnode, h⟩ := Option.bind_eq_some_iff.mp h
    cases node with
    | step step => exact ⟨hkind, flow, step, hflow, hnode, h⟩
    | _ => cases h
  · cases h

end Frame

/-- A step asks for a slot by a frame of the executor. -/
theorem Step.kind_asking? {step : Step} {asking : Frame} (h : step.asking? = some asking) :
    asking.kind = .pattern ∧ asking.stepId = startId := by
  unfold Step.asking? at h
  split at h
  · cases h
    exact ⟨rfl, rfl⟩
  · cases h

namespace Stack

/-- The frame that asks for the slot that the top frame waits for. -/
def awaited? (catalog : Catalog) (stack : Stack) : Option Frame :=
  (List.head? stack).bind (Frame.awaited? catalog)

/-- A frame asks for a slot exactly if the frame directly below waits for that. -/
def Attended (catalog : Catalog) : Stack → Prop
  | [] => True
  | above :: below => awaited? catalog below = above.asked? ∧ Attended catalog below

variable {catalog : Catalog} {stack below : Stack} {top : Frame}

theorem awaited?_cons (catalog : Catalog) (top : Frame) (below : Stack) :
    awaited? catalog (top :: below) = top.awaited? catalog := rfl

theorem awaited?_start (h : top.stepId = startId) : awaited? catalog (top :: below) = none :=
  Frame.awaited?_start h

theorem attended_moveTo (h : Attended catalog stack) (stepId : String) :
    Attended catalog (stack.moveTo stepId) := by
  cases stack with
  | nil => exact h
  | cons top below => exact h

/-- A frame that asks for nothing may be put on a frame that waits for nothing. -/
theorem attended_push {frame : Frame} (h : Attended catalog stack)
    (hstack : stack.awaited? catalog = none) (hframe : frame.asked? = none) :
    Attended catalog (stack.push frame) := ⟨hstack.trans hframe.symm, h⟩

end Stack

/-! ## What a node does to an attended stack -/

namespace Stack

variable {catalog : Catalog} {below : Stack} {top : Frame}

theorem awaited?_eq_some {stack : Stack} {asking : Frame}
    (h : stack.awaited? catalog = some asking) :
    ∃ top below, stack = top :: below ∧ top.awaited? catalog = some asking := by
  cases stack with
  | nil => cases h
  | cons top below => exact ⟨top, below, rfl, h⟩

/-- Only a frame of the executor asks for a slot. -/
theorem Attended.kind_top (h : Attended catalog (top :: below)) {asking : Frame}
    (hasked : top.asked? = some asking) : top.kind = .pattern := by
  obtain ⟨_, _, rfl, hwaits⟩ := awaited?_eq_some (h.1.trans hasked)
  obtain ⟨-, _, step, -, -, hstep⟩ := Frame.awaited?_eq_some hwaits
  have hkind := (Step.kind_asking? hstep).1
  unfold Frame.asked? at hasked
  split at hasked
  · cases hasked
    exact hkind
  · cases hasked

end Stack

namespace Interpreter.Effect

variable {setting : Setting} {flow : Flow} {stack after : Stack} {conversation : Conversation}
  {outcome : Outcome}

/-- A step keeps the stack attended and leaves a frame on top that waits for nothing. -/
theorem step_attended {step : Step} (hstack : stack.Attended setting.catalog)
    (hawaits : stack.awaited? setting.catalog = step.asking?)
    (hlink : ∀ id, step.task = .link id → ∀ top ∈ stack.head?, top.asked? = none)
    (h : Effect setting flow stack conversation (.step step) (.ok (outcome, after))) :
    after.Attended setting.catalog ∧ after.awaited? setting.catalog = none := by
  unfold Step.asking? at hawaits
  cases h with
  | collected htask =>
    rw [htask] at hawaits
    exact ⟨⟨hawaits, hstack⟩, Stack.awaited?_start rfl⟩
  | @linked _ id htask =>
    rw [htask] at hawaits
    cases stack with
    | nil => exact ⟨⟨(Frame.asked?_atStart id .link).symm, trivial⟩, Stack.awaited?_start rfl⟩
    | cons top below =>
      have hasks : top.asked? = none := hlink id htask top rfl
      obtain ⟨hbelow, hrest⟩ := hstack
      have hnew : Frame.awaited? setting.catalog (.atStart id .link) = none :=
        Frame.awaited?_start rfl
      have hnone : (Frame.atStart id .link).asked? = none := Frame.asked?_atStart id .link
      exact ⟨⟨hnew.trans hasks.symm, hbelow.trans (hasks.trans hnone.symm), hrest⟩, hawaits⟩
  | predicted htask | skipped htask | assigned htask | branched htask | generated htask =>
    rw [htask] at hawaits
    exact ⟨hstack, hawaits⟩

/-- The end of a flow uncovers the frames below, or puts a frame on them that asks for nothing. -/
theorem finish_cases {top : Frame} {below : Stack} (hstack : stack = top :: below)
    (h : Effect setting flow stack conversation .finish (.ok (outcome, after))) :
    after = below ∨ ∃ frame, after = frame :: below ∧ frame.stepId = startId ∧
      frame.asked? = none ∧ (top.kind = .interrupt ∨ below = []) := by
  subst hstack
  cases h with
  | ended hsame =>
    cases hsame
    rcases Pattern.patterns_cases top below setting.catalog with
      h | ⟨hkind, flow, -, h⟩ | ⟨hempty, -, h⟩
    · exact Or.inl h
    · exact Or.inr ⟨_, h, rfl, Frame.asked?_continueFrame _, Or.inl hkind⟩
    · subst hempty
      exact Or.inr ⟨_, h, rfl, Frame.asked?_completedFrame _, Or.inr rfl⟩

/-- The end of a flow uncovers the frames below, or it keeps the stack attended and leaves nothing on
top that waits. -/
theorem finish_attended {top : Frame} {below : Stack} (hstack : stack = top :: below)
    (hattended : stack.Attended setting.catalog)
    (h : Effect setting flow stack conversation .finish (.ok (outcome, after))) :
    after = below ∨ after.Attended setting.catalog ∧ after.awaited? setting.catalog = none := by
  rcases h.finish_cases hstack with hbelow | ⟨frame, rfl, hstart, hframe, hreason⟩
  · exact Or.inl hbelow
  subst hstack
  have hwaits : Stack.awaited? setting.catalog below = none := by
    rcases hreason with hkind | rfl
    · -- an interrupting frame asks for nothing
      by_contra hwaits
      obtain ⟨asking, hasking⟩ := Option.ne_none_iff_exists'.mp hwaits
      have hpattern := hattended.kind_top (hattended.1.symm.trans hasking)
      rw [hkind] at hpattern
      cases hpattern
    · rfl
  exact Or.inr ⟨Stack.attended_push hattended.2 hwaits hframe, Stack.awaited?_start hstart⟩

end Interpreter.Effect

/-! ## One iteration -/

/-- A catalog with the built-in flow that asks for a slot. -/
structure Catalog.Asking (catalog : Catalog) : Prop where
  executable : catalog.Executable
  collects : catalog.flow? Pattern.collectId = some Pattern.collectFlow

/-- A loaded catalog that does not replace the flow that asks for a slot. -/
theorem Catalog.asking_of_load {text : String} {declared : Catalog}
    (hload : Catalog.load text = .ok declared)
    (hcollect : declared.flow? Pattern.collectId = none) : (Pattern.addTo declared).Asking :=
  ⟨Pattern.executable_addTo (Catalog.sound_of_load hload),
    Pattern.flow?_addTo_of_mem Pattern.collectFlow_mem hcollect⟩

namespace Turn

variable {setting : Setting} {stack below after : Stack} {top : Frame} {flow : Flow}
  {current node : Node} {conversation : Conversation} {asked : List Question} {outcome : Outcome}

/-- The flow of a frame that asks for a slot. -/
theorem At.collectFlow (hcatalog : setting.catalog.Asking)
    (h : At setting.catalog stack top below flow current) {asking : Frame}
    (hasked : top.asked? = some asking) : flow = Pattern.collectFlow := by
  have hflow := h.flow_eq
  rw [Frame.flowId_of_asked? hasked, hcatalog.collects, Option.some.injEq] at hflow
  exact hflow.symm

/-- After the cursor has moved to a step, the top frame waits for what the step asks for. -/
theorem At.awaited?_moveTo (hflow : flow.Sound)
    (h : At setting.catalog stack top below flow current) {step : Step}
    (hstep : step ∈ flow.declared) :
    (stack.moveTo step.id).awaited? setting.catalog = step.asking? := by
  have hkind : (Frame.mk top.flowId step.id top.kind top.context).kind.isFlow = true := h.isFlow
  rw [h.moveTo_eq, Stack.awaited?_cons, Frame.awaited?, if_pos hkind, h.flow_eq,
    Option.bind_some, Flow.node?_declared hflow hstep]
  rfl

/-- A declared step keeps an attended stack attended and leaves nothing on top that waits. -/
theorem At.step_attended (hcatalog : setting.catalog.Asking) (hflow : flow.Sound)
    (hattended : stack.Attended setting.catalog)
    (h : At setting.catalog stack top below flow current) {step : Step}
    (hstep : step ∈ flow.declared)
    (heffect : Interpreter.Effect setting flow (stack.moveTo step.id) conversation (.step step)
      (.ok (outcome, after))) :
    after.Attended setting.catalog ∧ after.awaited? setting.catalog = none := by
  refine heffect.step_attended (Stack.attended_moveTo hattended step.id)
    (h.awaited?_moveTo hflow hstep) fun id htask frame hframe => ?_
  have htop : frame = { top with stepId := step.id } := by
    rw [h.stack_eq] at hframe
    exact (Option.some.inj hframe).symm
  -- the flow that asks for a slot links to no other
  by_contra hasks
  obtain ⟨asking, hasking⟩ := Option.ne_none_iff_exists'.mp hasks
  rw [htop, Frame.asked?_moved] at hasking
  obtain rfl := h.collectFlow hcatalog hasking
  exact Pattern.not_link Pattern.collectFlow_mem hstep id htask

/-- Nothing waits on top where the turn is over. -/
theorem Idle.awaited? (h : Idle stack) : stack.awaited? setting.catalog = none := by
  cases stack with
  | nil => rfl
  | cons top below =>
    rw [Stack.awaited?_cons, Frame.awaited?, h top below rfl, if_neg Bool.false_ne_true]

/-- A turn keeps its frames placed and attended; if the top frame waits for a slot, it is filled. -/
structure Progress.Kept (setting : Setting) (progress : Progress) : Prop where
  placed : progress.stack.Placed setting.catalog
  attended : progress.stack.Attended setting.catalog
  filled : ∀ slot, setting.services.TellsFilled slot → ∀ asking,
    progress.stack.awaited? setting.catalog = some asking → asking.AsksFor slot →
      progress.conversation.Fills slot

/-- A frame that asks for a slot ends only if the slot is filled. -/
theorem At.fills_of_finish (hcatalog : setting.catalog.Asking)
    (hplaced : stack.Placed setting.catalog)
    (h : At setting.catalog stack top below flow current)
    (hnext : (Selection.nextNode setting.services current flow stack conversation asked).1 =
      some .finish) {slot : String} (htells : setting.services.TellsFilled slot)
    (hasks : top.AsksFor slot) : conversation.Fills slot := by
  obtain ⟨-, -, hcurrent, -⟩ := h.hasCurrent hcatalog.executable hplaced
  obtain rfl := h.collectFlow hcatalog hasks.asked?
  rcases Pattern.next_collectFlow hcurrent hnext with ⟨-, hdone⟩ | ⟨hid, -⟩ | ⟨hid, -⟩ | hid
  · rw [h.context_eq] at hdone
    exact (htells _ conversation asked hasks.2).mp hdone
  · exact absurd hid (by decide)
  · exact absurd hid (by decide)
  · exact absurd hid (by decide)

/-- A turn that leaves no frame on top that waits is kept. -/
theorem Progress.kept_of_awaited? {progress : Progress}
    (hplaced : progress.stack.Placed setting.catalog)
    (hattended : progress.stack.Attended setting.catalog)
    (h : progress.stack.awaited? setting.catalog = none) : progress.Kept setting :=
  ⟨hplaced, hattended, fun _ _ _ hasking => by rw [h] at hasking; cases hasking⟩

/-- When the frame that asks has ended, the frame that waits is on top, and the slot is filled. -/
theorem At.kept_of_finish (hcatalog : setting.catalog.Asking) {progress : Progress}
    (hkept : progress.Kept setting) {events : List Event}
    (h : At setting.catalog progress.stack top below flow current)
    (hnext : (Selection.nextNode setting.services current flow progress.stack
      progress.conversation asked).1 = some .finish)
    (heffect : Interpreter.Effect setting flow (progress.stack.moveTo Node.finish.id)
      progress.conversation .finish (.ok (.proceed events, after)))
    (hplaced : after.Placed setting.catalog) :
    (progress.advance after events).Kept setting := by
  have hattended : Stack.Attended setting.catalog (top :: below) := h.stack_eq ▸ hkept.attended
  rcases heffect.finish_attended (h.moveTo_eq endId) (Stack.attended_moveTo hkept.attended _) with
    rfl | ⟨hafter, hwaits⟩
  · refine ⟨hplaced, hattended.2, fun slot htells asking hasking hasks => ?_⟩
    -- the frame that has ended is the one that asked
    have hasked : top.asked? = some asking := hattended.1.symm.trans hasking
    have hfills := h.fills_of_finish hcatalog hkept.placed hnext htells (hasks.of_asked? hasked)
    obtain rfl := h.collectFlow hcatalog hasked
    cases heffect with
    | ended => exact hfills
  · exact Progress.kept_of_awaited? hplaced hafter hwaits

/-- An iteration after which the turn goes on. -/
theorem Iteration.kept (hcatalog : setting.catalog.Asking) {progress next : Progress}
    (hkept : progress.Kept setting) (h : Iteration setting progress (next, none)) :
    next.Kept setting := by
  have hplaced := h.placed hcatalog.executable hkept.placed
  cases h with
  | stalled => exact hkept
  | proceeded hat hnext heffect =>
    obtain ⟨-, hflow, hcurrent, -⟩ := hat.hasCurrent hcatalog.executable hkept.placed
    rcases Selection.nextNode_some hflow hcurrent hnext with rfl | ⟨step, hstep, rfl, -⟩
    · exact hat.kept_of_finish hcatalog hkept hnext heffect hplaced
    · obtain ⟨hafter, hwaits⟩ := hat.step_attended hcatalog hflow hkept.attended hstep heffect
      exact Progress.kept_of_awaited? hplaced hafter hwaits

/-- The iteration that ends a turn with a prediction leaves nothing on top that waits. -/
theorem Iteration.kept_end (hcatalog : setting.catalog.Asking) {progress ended : Progress}
    {prediction : Prediction} (hkept : progress.Kept setting)
    (h : Iteration setting progress (ended, some (.ok prediction))) :
    ended.stack.Placed setting.catalog ∧ ended.stack.Attended setting.catalog ∧
      ended.stack.awaited? setting.catalog = none := by
  have hplaced := h.placed hcatalog.executable hkept.placed
  cases h with
  | idle hidle => exact ⟨hplaced, hkept.attended, hidle.awaited?⟩
  | paused hat hnext heffect =>
    obtain ⟨-, hflow, hcurrent, -⟩ := hat.hasCurrent hcatalog.executable hkept.placed
    rcases Selection.nextNode_some hflow hcurrent hnext with rfl | ⟨step, hstep, rfl, -⟩
    · cases heffect
    · exact ⟨hplaced, hat.step_attended hcatalog hflow hkept.attended hstep heffect⟩

end Turn

end DialogueFlow
