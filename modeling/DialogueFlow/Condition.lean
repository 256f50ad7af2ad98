/-
  Conditions of links. A condition is a template over the frame's context; the text it renders to
  is an expression over the slots, where the name `context` stands for the context itself.
-/
import DialogueFlow.Services

namespace DialogueFlow.Condition

/-- What templates see: the context under its name. -/
def templateRoot (context : Table Json) : Json := .obj [("context", .obj context)]

/-- The document of expressions: every slot, and the context in place of a slot of that name. -/
def document (context : Table Json) (conversation : Conversation) : Json :=
  .obj (conversation.values.insert "context" (.obj context))

/-- Whether a condition holds; one that cannot be rendered or evaluated does not. -/
def holds (services : Services) (condition : String) (context : Table Json)
    (conversation : Conversation) : Asking Bool := do
  match ← services.render condition (templateRoot context) with
  | .error _ => return false
  | .ok expression =>
    match ← services.evaluate expression (document context conversation) with
    | .error _ => return false
    | .ok satisfied => return satisfied

end DialogueFlow.Condition
