/-
  Services that answer from a script, for trying out flows: templates stand for themselves,
  expressions are looked up, and every prompt gets the same text. The report of what was asked is
  read off the log of questions.
-/
import DialogueFlow.Services

namespace DialogueFlow.Scripted

/-- Renders every template verbatim; an expression without an answer gets `default`. -/
def evaluator (answers : List (String × Bool)) (default : Bool) : Evaluator where
  render := fun _ template _ => .ok template
  evaluate := fun _ expression _ => .ok ((answers.lookup expression).getD default)

/-- Answers every prompt with the text, or always fails. -/
def generator (text : Option String) : Generator where
  generate := fun _ _ _ _ =>
    match text with
    | some text => .ok text
    | none => .error "scripted generator failure"

/-- How often a template was to be rendered. -/
def renders (asked : List Question) : Nat :=
  asked.countP fun
    | .render .. => true
    | _ => false

/-- The expressions that were to be evaluated, in order. -/
def evaluated (asked : List Question) : List String :=
  asked.reverse.filterMap fun
    | .evaluate expression _ => some expression
    | _ => none

/-- The prompts that were to be answered, in order. -/
def prompts (asked : List Question) : List String :=
  asked.reverse.filterMap fun
    | .generate prompt _ _ => some prompt
    | _ => none

end DialogueFlow.Scripted
