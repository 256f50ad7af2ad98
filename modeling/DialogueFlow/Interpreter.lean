/-
  Interpreting one node: what it does to the stack, which events it brings about, and whether the
  turn goes on or stops for an action.
-/
import DialogueFlow.FlowError
import DialogueFlow.Pattern
import DialogueFlow.Condition

namespace DialogueFlow

/-- What a turn reads and never changes. -/
structure Setting where
  catalog : Catalog
  /-- The names that may be predicted; any other action is passed over. -/
  actions : List String
  services : Services

/-- How the interpretation of a node ends. -/
inductive Outcome where
  /-- The turn goes on after these events. -/
  | proceed (events : List Event)
  /-- The turn stops for an action, with what goes along with it. -/
  | pause (action : String) (metadata : Option (Table Json))
  deriving DecidableEq, Repr

/-- The events of an outcome. -/
def Outcome.events : Outcome → List Event
  | .proceed events => events
  | .pause .. => []

namespace Interpreter

/-- The event that empties a slot that is to be asked for again. -/
def askAgain (slot : String) (askBeforeFilling : Bool) (conversation : Conversation) :
    List Event :=
  match conversation.slot? slot with
  | some found =>
    if found.wasSet ∧ askBeforeFilling then [.slotSet slot found.initial] else []
  | none => []

/-- The utterance that asks for a slot unless the step names another. -/
def defaultUtter (slot : String) : String := "utter_ask_" ++ slot

/-- What goes along with a text; null stands for a text that could not be generated. -/
def textMetadata (text : Except String String) : Table Json :=
  [("message", .obj [("text",
    match text with
    | .ok text => .str text
    | .error _ => .null)])]

/-- Interprets an action step: its template names the action. -/
def runAction (setting : Setting) (flow : Flow) (stepId : String) (action : Option String)
    (stack : Stack) : Asking (Except FlowError Outcome) := do
  match action.filter (!Text.isBlankText ·) with
  | none => return .error (.missingAction flow.id stepId)
  | some template =>
    match ← setting.services.render template (Condition.templateRoot stack.context) with
    | .error reason => return .error (.templateFailed template reason)
    | .ok name =>
      return .ok (if name ∈ setting.actions then .pause name none else .proceed [])

/-- Interprets the end of a flow: its frame is popped, patterns follow, its slots are reset. -/
def runEnd (setting : Setting) (flow : Flow) (stack : Stack) (conversation : Conversation) :
    Except FlowError (Outcome × Stack) :=
  match stack with
  | [] => .error (.endedOnEmptyStack flow.id)
  | ended :: below =>
    let resumed := Pattern.afterInterrupt ended below setting.catalog
    .ok (.proceed (Pattern.resets flow conversation),
      Pattern.afterLast ended resumed setting.catalog)

/-- Interprets a declared step. -/
def runStep (setting : Setting) (flow : Flow) (step : Step) (stack : Stack)
    (conversation : Conversation) : Asking (Except FlowError (Outcome × Stack)) := do
  match step.task with
  | .action action =>
    return (← runAction setting flow step.id action stack).map fun outcome => (outcome, stack)
  | .collect slot utter rejections askBeforeFilling _ =>
    let frame := Pattern.collectFrame slot (utter.getD (defaultUtter slot)) rejections
    return .ok (.proceed (askAgain slot askBeforeFilling conversation), stack.push frame)
  | .setSlots assignments =>
    return .ok (.proceed (assignments.map fun a => .slotSet a.key a.value), stack)
  | .branch => return .ok (.proceed [], stack)
  | .link flowId => return .ok (.proceed [], stack.pushBelowTop (.atStart flowId .link))
  | .generateResponse prompt config =>
    let text ← setting.services.generate prompt config conversation
    return .ok (.pause Domain.sendTextAction (some (textMetadata text)), stack)

/-- Interprets a node. On an error the stack is as it was. -/
def run (setting : Setting) (flow : Flow) (node : Node) (stack : Stack)
    (conversation : Conversation) : Asking (Except FlowError (Outcome × Stack)) := do
  match node with
  | .step step => runStep setting flow step stack conversation
  | .finish => return runEnd setting flow stack conversation
  | .start _ | .resume _ => return .error (.unexpectedStep flow.id node.id node.kindName)

end Interpreter

end DialogueFlow
