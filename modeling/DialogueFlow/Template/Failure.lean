/-
  Why a template or an expression cannot be read, rendered or evaluated.
-/

namespace DialogueFlow.Template

inductive Failure where
  /-- The text is no template or no expression. -/
  | syntaxError (detail : String)
  | unknownFilter (name : String)
  | unknownTest (name : String)
  | unknownFunction (name : String)
  /-- An attribute or item of an undefined value. -/
  | undefinedValue
  /-- An operator, filter or test that does not fit its operands. -/
  | badOperation (name : String)
  | badArguments (name : String)
  | notIterable
  | cannotUnpack
  deriving DecidableEq, Repr

namespace Failure

/-- The wording of a failure. -/
def message : Failure → String
  | .syntaxError detail => s!"syntax error: {detail}"
  | .unknownFilter name => s!"unknown filter: filter {name} is unknown"
  | .unknownTest name => s!"unknown test: test {name} is unknown"
  | .unknownFunction name => s!"unknown function: {name} is unknown"
  | .undefinedValue => "undefined value"
  | .badOperation name => s!"invalid operation: {name} does not fit its operands"
  | .badArguments name => s!"invalid arguments of {name}"
  | .notIterable => "invalid operation: value is not iterable"
  | .cannotUnpack => "cannot unpack: sequence of wrong length"

end Failure

end DialogueFlow.Template
