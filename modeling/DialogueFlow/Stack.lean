/-
  The dialogue stack. The list starts with the topmost frame; the persisted records start with the
  bottom one, and null stands for the empty stack.
-/
import DialogueFlow.Conversation
import DialogueFlow.Flow.Catalog

namespace DialogueFlow

/-- The flows in progress, the running one first. -/
abbrev Stack := List Frame

namespace Stack

/-- Puts a frame on top. -/
def push (stack : Stack) (frame : Frame) : Stack := frame :: stack

/-- Puts a frame directly below the top, so that the top finishes first. -/
def pushBelowTop (stack : Stack) (frame : Frame) : Stack :=
  match stack with
  | [] => [frame]
  | top :: below => top :: frame :: below

/-- Puts a frame in the place of the top. -/
def replaceTop (stack : Stack) (frame : Frame) : Stack := frame :: List.tail stack

/-- Moves the cursor of the top frame. -/
def moveTo (stack : Stack) (stepId : String) : Stack :=
  match stack with
  | [] => []
  | top :: below => { top with stepId } :: below

/-- The nearest frame, from the top, that belongs to a flow of a user. -/
def topUserFrame? (stack : Stack) : Option Frame := List.find? Frame.isUserFlow stack

/-- The context of the top frame; empty where there is none. -/
def context (stack : Stack) : Table Json :=
  match stack with
  | [] => []
  | top :: _ => top.context.getD []

/-- The flow of the top frame. -/
def topFlow? (stack : Stack) (catalog : Catalog) : Option Flow :=
  match stack with
  | [] => none
  | top :: _ => catalog.flow? top.flowId

/-- The flow of the nearest user frame, with the node at its cursor. -/
def userFlow? (stack : Stack) (catalog : Catalog) : Option Flow :=
  (stack.topUserFrame?).bind fun frame => catalog.flow? frame.flowId

/-- The node at the cursor of the nearest user frame. -/
def userNode? (stack : Stack) (catalog : Catalog) : Option Node :=
  (stack.topUserFrame?).bind fun frame => (catalog.flow? frame.flowId).bind (·.node? frame.stepId)

/-- The persisted form of a stack, bottom first. -/
def toJson (stack : Stack) : Json := .arr ((List.reverse stack).map Frame.toRecord)

/-- Reads a persisted stack. -/
def decode : Decoder Stack
  | .null => .ok []
  | value => (Decode.list Frame.decode value).map List.reverse

/-- The stack that a conversation holds. -/
def ofConversation (conversation : Conversation) : Except DecodeError Stack :=
  match conversation.value? Conversation.stackSlot with
  | some value => decode value
  | none => .ok []

/-- The event that persists a stack. -/
def persist (stack : Stack) : Event := .slotSet Conversation.stackSlot stack.toJson

/-- A stack that was written is read as it was. -/
theorem decode_toJson (stack : Stack) : decode stack.toJson = .ok stack := by
  have hframes : Decode.list Frame.decode (.arr ((List.reverse stack).map Frame.toRecord)) =
      .ok (List.reverse stack) := Decode.list_written fun frame _ => frame.decode_toRecord
  rw [toJson, decode, hframes]
  · simp [Except.map]
  · intro h
    cases h

/-- Different stacks are written differently. -/
theorem toJson_inj {first second : Stack} : first.toJson = second.toJson ↔ first = second := by
  constructor
  · intro h
    have hread := decode_toJson first
    rw [h, decode_toJson, Except.ok.injEq] at hread
    exact hread.symm
  · rintro rfl
    rfl

end Stack

end DialogueFlow
