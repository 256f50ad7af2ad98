/-
  Why a command fails, the wording of it, and the status it ends with.
-/
import DialogueFlow.FlowError
import DialogueFlow.Flow.Loading

namespace DialogueFlow.Command

/-- How a command ends, as its caller sees it. -/
inductive Status where
  | success
  /-- An input file or another input is invalid, or a file cannot be written. -/
  | invalid
  /-- A turn took more steps than its ceiling. -/
  | circuitBreaker
  /-- A flow or the dialogue stack cannot be interpreted. -/
  | interpretation
  /-- The arguments are no command. -/
  | usage
  deriving DecidableEq, Repr

/-- The number of a status. -/
def Status.code : Status → Nat
  | .success => 0
  | .invalid => 1
  | .circuitBreaker => 2
  | .interpretation => 3
  | .usage => 2

inductive Failure where
  | unreadable (path : String)
  | malformed (path : String)
  | unreadableCatalog (path : String)
  | badCatalog (path : String) (cause : LoadError)
  /-- A turn may not take any step. -/
  | zeroCeiling
  | unknownFlow (flowId path : String)
  | cannotMakeDirectory (path : String)
  | cannotWrite (path : String)
  | cannotReplace (path : String)
  | flow (cause : FlowError)
  deriving DecidableEq, Repr

namespace Failure

/-- The wording of a failure. -/
def message : Failure → String
  | .unreadable path => s!"read {path}"
  | .malformed path => s!"parse {path}"
  | .unreadableCatalog path => s!"read flows {path}"
  | .badCatalog path cause => s!"load flows {path}: {cause.message}"
  | .zeroCeiling => "max_steps must be > 0"
  | .unknownFlow flowId path => s!"unknown flow '{flowId}' in {path}"
  | .cannotMakeDirectory path => s!"create directory {path}"
  | .cannotWrite path => s!"write temp file {path}"
  | .cannotReplace path => s!"replace {path}"
  | .flow cause => cause.message

/-- The status that a failure leads to. -/
def status : Failure → Status
  | .flow cause => if cause.isInterpretation then .interpretation else .circuitBreaker
  | _ => .invalid

theorem status_ne_success (failure : Failure) : failure.status ≠ .success := by
  cases failure with
  | flow cause => simp only [status]; split <;> simp
  | _ => simp [status]

end Failure

end DialogueFlow.Command
