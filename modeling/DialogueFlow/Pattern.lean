/-
  Patterns: flows that the executor itself pushes when a flow ends or a slot has to be asked for,
  and what happens to the slots of a flow that ends.
-/
import DialogueFlow.Stack

namespace DialogueFlow.Pattern

/-- The flow that asks for the value of a slot. -/
def collectId : String := "pattern_collect_information"

/-- The flow that leads back into an interrupted flow. -/
def continueId : String := "pattern_continue_interrupted"

/-- The flow that marks the end of the last flow. -/
def completedId : String := "pattern_completed"

/-- The condition under which the slot of a collect frame is filled. -/
def collectDone : String :=
  "\x7b\x7b context.collect \x7d\x7d is defined and \x7b\x7b context.collect \x7d\x7d is not none"

/-- The frame that asks for a slot. -/
def collectFrame (slot utter : String) (rejections : List Rejection) : Frame :=
  { Frame.atStart collectId .pattern with
    context := some [("collect", .str slot), ("rejections", .arr (rejections.map Rejection.toJson)),
      ("utter", .str utter)] }

/-- The frame that leads back into the flow of this name. -/
def continueFrame (name : String) : Frame :=
  { Frame.atStart continueId .pattern with context := some [("previous_flow_name", .str name)] }

/-- The frame that marks the end of the flow of this name. -/
def completedFrame (name : Option String) : Frame :=
  { Frame.atStart completedId .pattern with
    context := some [("previous_flow_name", (name.map Json.str).getD .null)] }

/-- After an interrupting flow has ended: leads back into the nearest flow of a user below, unless
its cursor is at the end or cannot be found. -/
def afterInterrupt (ended : Frame) (stack : Stack) (catalog : Catalog) : Stack :=
  if ended.kind = .interrupt then
    match stack.userNode? catalog, stack.userFlow? catalog with
    | some node, some flow =>
      if node.isEndOfFlow then stack else stack.push (continueFrame flow.readableName)
    | _, _ => stack
  else stack

/-- After the last flow of a user has ended: marks it as completed. -/
def afterLast (ended : Frame) (stack : Stack) (catalog : Catalog) : Stack :=
  if stack = [] ∧ ended.isUserFlow then
    stack.push (completedFrame ((catalog.flow? ended.flowId).map Flow.readableName))
  else stack

/-- An ended interrupt leads back into the nearest flow of a user, if into any. -/
theorem afterInterrupt_cases (ended : Frame) (stack : Stack) (catalog : Catalog) :
    afterInterrupt ended stack catalog = stack ∨ (ended.kind = .interrupt ∧
      ∃ flow, stack.userFlow? catalog = some flow ∧
        afterInterrupt ended stack catalog = stack.push (continueFrame flow.readableName)) := by
  unfold afterInterrupt
  split
  · rename_i hkind
    split
    · rename_i flow _ hflow
      split
      · exact Or.inl rfl
      · exact Or.inr ⟨hkind, flow, hflow, rfl⟩
    · exact Or.inl rfl
  · exact Or.inl rfl

/-- Only the last flow of a user is marked as completed. -/
theorem afterLast_cases (ended : Frame) (stack : Stack) (catalog : Catalog) :
    afterLast ended stack catalog = stack ∨ (stack = [] ∧ ended.isUserFlow = true ∧
      afterLast ended stack catalog =
        [completedFrame ((catalog.flow? ended.flowId).map Flow.readableName)]) := by
  unfold afterLast
  split
  · rename_i h
    obtain ⟨rfl, huser⟩ := h
    exact Or.inr ⟨rfl, huser, rfl⟩
  · exact Or.inl rfl

/-- The end of a flow uncovers the frames below, and puts at most one on them. -/
theorem patterns_cases (ended : Frame) (below : Stack) (catalog : Catalog) :
    let after := afterLast ended (afterInterrupt ended below catalog) catalog
    after = below ∨
      (ended.kind = .interrupt ∧ ∃ flow, below.userFlow? catalog = some flow ∧
        after = continueFrame flow.readableName :: below) ∨
      (below = [] ∧ ended.isUserFlow = true ∧
        after = [completedFrame ((catalog.flow? ended.flowId).map Flow.readableName)]) := by
  intro after
  rcases afterLast_cases ended (afterInterrupt ended below catalog) catalog with
    hlast | ⟨hempty, huser, hlast⟩
  · rcases afterInterrupt_cases ended below catalog with hsame | ⟨hkind, flow, hflow, hresumed⟩
    · exact Or.inl (hlast.trans hsame)
    · exact Or.inr (Or.inl ⟨hkind, flow, hflow, hlast.trans hresumed⟩)
  · -- the stack is only empty if it was so below the ended frame
    rcases afterInterrupt_cases ended below catalog with hsame | ⟨-, flow, -, hresumed⟩
    · exact Or.inr (Or.inr ⟨hsame.symm.trans hempty, huser, hlast⟩)
    · rw [hempty] at hresumed
      cases hresumed

/-- The slots that the flow's collect steps reset at its end, in order. -/
def collectedResets (flow : Flow) : List String :=
  flow.declared.filterMap fun step =>
    match step.task with
    | .collect slot _ _ _ true => some slot
    | _ => none

/-- The slots that some collect step of the flow keeps. -/
def kept (flow : Flow) : List String :=
  flow.declared.filterMap fun step =>
    match step.task with
    | .collect slot _ _ _ false => some slot
    | _ => none

/-- The slots that the flow's other steps set, in order. -/
def assigned (flow : Flow) : List String :=
  flow.declared.flatMap fun step =>
    match step.task with
    | .setSlots assignments => assignments.map (·.key)
    | _ => []

/-- The slots that are reset when the flow ends. -/
def resetSlots (flow : Flow) : List String :=
  collectedResets flow ++ (assigned flow).filter (· ∉ kept flow)

/-- The events that reset the slots of a flow to their initial values. -/
def resets (flow : Flow) (conversation : Conversation) : List Event :=
  (resetSlots flow).map fun slot => .slotSet slot (conversation.initialValue slot)

/-- Asks for a slot until it has a value. -/
def collectFlow : Flow :=
  .ofDeclared collectId (some "pattern collect information")
    [⟨"start", .branch, [.when collectDone endId, .otherwise "ask_collect"]⟩,
      ⟨"ask_collect", .action (some "\x7b\x7b context.utter \x7d\x7d"), []⟩,
      ⟨"listen", .action (some Domain.listenAction), [.always "start"]⟩]

/-- Announces that an interrupted flow goes on. -/
def continueFlow : Flow :=
  .ofDeclared continueId (some "pattern continue interrupted")
    [⟨"utter_continue", .action (some "utter_flow_continue_interrupted"), []⟩]

/-- Ends at once. -/
def completedFlow : Flow := .ofDeclared completedId (some "pattern completed") []

/-- The built-in flows. -/
def flows : Catalog := [collectFlow, continueFlow, completedFlow]

/-- The catalog with every built-in flow that it does not replace. -/
def addTo (catalog : Catalog) : Catalog := catalog.merge flows

end DialogueFlow.Pattern
