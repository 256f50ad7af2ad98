/-
  Which node runs after the current one. A single unconditional link is taken without asking
  anything; otherwise the first link whose condition holds is taken, then the first fallback.
-/
import DialogueFlow.Condition
import DialogueFlow.Stack

namespace DialogueFlow.Selection

/-- The target of the first link with a condition that is not blank and holds. -/
def firstHolding (services : Services) (context : Table Json) (conversation : Conversation) :
    List Link → Asking (Option String)
  | [] => return none
  | .when condition target :: rest =>
    if Text.isBlankText condition then firstHolding services context conversation rest
    else do
      if ← Condition.holds services condition context conversation then return some target
      else firstHolding services context conversation rest
  | _ :: rest => firstHolding services context conversation rest

/-- The target of the first fallback. -/
def fallback? (links : List Link) : Option String :=
  links.findSome? fun
    | .otherwise target => some target
    | _ => none

/-- Where a node without links leads: a link step to the end, any other nowhere. -/
def withoutLinks (node : Node) : Option String :=
  if node.id ≠ endId ∧ node.isLinkStep then some endId else none

/-- The id of the node after `node`, if its links lead anywhere. -/
def nextId (services : Services) (node : Node) (context : Table Json)
    (conversation : Conversation) : Asking (Option String) := do
  match node.next with
  | [.always target] => return some target
  | links =>
    match ← firstHolding services context conversation links with
    | some target => return some target
    | none =>
      match fallback? links with
      | some target => return some target
      | none => return if links = [] then withoutLinks node else none

/-- The node after `node` in its flow, under the context of the top frame. -/
def nextNode (services : Services) (node : Node) (flow : Flow) (stack : Stack)
    (conversation : Conversation) : Asking (Option Node) := do
  match ← nextId services node stack.context conversation with
  | some id => return flow.node? id
  | none => return none

end DialogueFlow.Selection
