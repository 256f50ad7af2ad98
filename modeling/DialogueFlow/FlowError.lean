/-
  What aborts a turn, and the wording of it.
-/
import DialogueFlow.Stack

namespace DialogueFlow

inductive FlowError where
  /-- The turn took more steps than its ceiling. -/
  | circuitBreakerTripped (stack : Stack) (steps : Nat)
  /-- An action step does not say which action. -/
  | missingAction (flowId stepId : String)
  | unknownFlow (flowId : String)
  | unknownStep (flowId stepId : String)
  /-- A start node or a resuming node came up as the next one. -/
  | unexpectedStep (flowId stepId kind : String)
  | templateFailed (template reason : String)
  /-- The persisted stack cannot be read. -/
  | unreadableStack (cause : DecodeError)
  /-- A flow ended while no frame was left. -/
  | endedOnEmptyStack (flowId : String)
  deriving DecidableEq, Repr

namespace FlowError

/-- What a stack error says after its heading. -/
def invalidStack (detail : String) : String := s!"invalid dialogue stack: {detail}"

/-- The wording of an error. -/
def message : FlowError → String
  | .circuitBreakerTripped _ steps => s!"flow circuit breaker tripped after {steps} steps"
  | .missingAction flowId stepId => s!"action not specified for step '{stepId}' in flow '{flowId}'"
  | .unknownFlow flowId => s!"flow '{flowId}' is on the dialogue stack but not in the flow catalog"
  | .unknownStep flowId stepId => s!"step '{stepId}' not found in flow '{flowId}'"
  | .unexpectedStep flowId stepId kind => s!"cannot run {kind} step '{stepId}' in flow '{flowId}'"
  | .templateFailed template reason => s!"failed to render template '{template}': {reason}"
  | .unreadableStack cause => invalidStack cause.message
  | .endedOnEmptyStack flowId => invalidStack s!"flow '{flowId}' reached its end with an empty stack"

/-- The error lies in a flow or in the stack, and not in the number of steps. -/
def isInterpretation : FlowError → Bool
  | .circuitBreakerTripped .. => false
  | _ => true

end FlowError

end DialogueFlow
