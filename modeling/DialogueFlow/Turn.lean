/-
  A turn: nodes are interpreted until one stops for an action or no flow is on top. The turn works
  on a copy of the conversation, to which events are applied as they arise; what it hands back is
  one prediction with all events. A ceiling bounds the number of iterations.
-/
import DialogueFlow.Interpreter
import DialogueFlow.Selection

namespace DialogueFlow

/-- What a turn hands back. Without an action there is nothing to do. -/
structure Prediction where
  action : Option String
  confidence : Float
  events : List Event
  metadata : Option (Table Json)
  deriving DecidableEq, Repr

namespace Prediction

/-- The prediction when no flow is active. -/
def nothing : Prediction := ⟨none, 0.0, [], none⟩

/-- The prediction of an action. -/
def certain (action : String) (events : List Event) (metadata : Option (Table Json)) :
    Prediction := ⟨some action, 1.0, events, metadata⟩

/-- The prediction as an object. -/
def toJson (prediction : Prediction) : Json :=
  .obj [("action_name", (prediction.action.map Json.str).getD .null),
    ("confidence", .float prediction.confidence),
    ("events", .arr (prediction.events.map Event.toJson)),
    ("metadata", (prediction.metadata.map Json.obj).getD .null)]

/-- What the caller records when it follows a prediction: its events, then the action. -/
def committed (prediction : Prediction) : List Event :=
  prediction.events ++ (prediction.action.map Event.actionExecuted).toList

end Prediction

namespace Turn

/-- The ceiling of a turn unless another is set. -/
def defaultCeiling : Nat := 250

/-- Where a turn stands. -/
structure Progress where
  stack : Stack
  /-- The working copy, with all events of the turn applied. -/
  conversation : Conversation
  /-- The events of the turn, in order. -/
  events : List Event
  deriving DecidableEq, Repr

/-- The progress after a node was interpreted. -/
def Progress.advance (progress : Progress) (stack : Stack) (events : List Event) : Progress :=
  ⟨stack, progress.conversation.recordAll events, progress.events ++ events⟩

/-- The end of a turn that waits for the user. -/
def Progress.waiting (progress : Progress) : Prediction :=
  .certain Domain.listenAction progress.events none

/-- Interprets the node after the one at the cursor of the top frame. Nothing happens when the links
lead nowhere; on an error the cursor has moved already. -/
def interpret (setting : Setting) (flow : Flow) (current : Node) (progress : Progress) :
    Asking (Progress × Option (Except FlowError Prediction)) := do
  match ← Selection.nextNode setting.services current flow progress.stack progress.conversation with
  | none => return (progress, none)
  | some node =>
    let stack := progress.stack.moveTo node.id
    match ← Interpreter.run setting flow node stack progress.conversation with
    | .error e => return ({ progress with stack }, some (.error e))
    | .ok (outcome, stack) =>
      let progress := progress.advance stack outcome.events
      match outcome with
      | .proceed _ => return (progress, none)
      | .pause action metadata =>
        return (progress, some (.ok (.certain action progress.events metadata)))

/-- One iteration; nothing beside the progress means that the turn goes on. -/
def iterate (setting : Setting) (progress : Progress) :
    Asking (Progress × Option (Except FlowError Prediction)) := do
  match progress.stack with
  | [] => return (progress, some (.ok progress.waiting))
  | top :: _ =>
    if top.kind.isFlow then
      match setting.catalog.flow? top.flowId with
      | none => return (progress, some (.error (.unknownFlow top.flowId)))
      | some flow =>
        match flow.node? top.stepId with
        | none => return (progress, some (.error (.unknownStep flow.id top.stepId)))
        | some current => interpret setting flow current progress
    else return (progress, some (.ok progress.waiting))

/-- Iterates at most `rounds` times; the breaker then reports one step more than the ceiling. -/
def loop (setting : Setting) (ceiling : Nat) :
    (rounds : Nat) → Progress → Asking (Progress × Except FlowError Prediction)
  | 0, progress => fun asked =>
    ((progress, .error (.circuitBreakerTripped progress.stack (ceiling + 1))), asked)
  | rounds + 1, progress => fun asked =>
    match iterate setting progress asked with
    | ((progress, none), asked) => loop setting ceiling rounds progress asked
    | ((progress, some result), asked) => ((progress, result), asked)

/-- Runs the turn of a stack; also the stack it leaves behind. -/
def selectAction (setting : Setting) (ceiling : Nat) (stack : Stack)
    (conversation : Conversation) : Asking (Stack × Except FlowError Prediction) := do
  let (progress, result) ← loop setting ceiling ceiling ⟨stack, conversation, []⟩
  return (progress.stack, result)

/-- Appends the event that persists the stack, if the turn changed it. -/
def persisting (before after : Stack) (prediction : Prediction) : Prediction :=
  if after.toJson = before.toJson then prediction
  else { prediction with events := prediction.events ++ [after.persist] }

/-- Runs one turn of a conversation. -/
def advance (conversation : Conversation) (domain : Domain) (catalog : Catalog)
    (services : Services) (ceiling : Nat) : Asking (Except FlowError Prediction) := do
  match Stack.ofConversation conversation with
  | .error cause => return .error (.unreadableStack cause)
  | .ok [] => return .ok .nothing
  | .ok stack =>
    let setting : Setting := ⟨catalog, domain.actionNames, services⟩
    let (after, result) ← selectAction setting ceiling stack conversation
    return result.map (persisting stack after)

end Turn

end DialogueFlow
