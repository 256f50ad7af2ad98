/-
  What a turn asks of the outside: to render a template, to evaluate an expression, to generate a
  text. Answers may depend on everything asked before, so a service is a function of the questions
  asked so far, and whoever asks keeps the log of them, latest first.
-/
import DialogueFlow.Conversation

namespace DialogueFlow

/-- One question that a turn asks. -/
inductive Question where
  | render (template : String) (root : Json)
  | evaluate (expression : String) (document : Json)
  | generate (prompt : String) (config : Option Json) (conversation : Conversation)
  deriving DecidableEq, Repr

/-- Renders templates and decides expressions; a failure comes with its reason. -/
structure Evaluator where
  render : (asked : List Question) → (template : String) → (root : Json) →
    Except String String
  evaluate : (asked : List Question) → (expression : String) → (document : Json) →
    Except String Bool

/-- Makes texts from prompts. -/
structure Generator where
  generate : (asked : List Question) → (prompt : String) → (config : Option Json) →
    Conversation → Except String String

/-- The services of a turn. -/
structure Services where
  evaluator : Evaluator
  generator : Generator

/-- A computation that may ask questions, with the log of those already asked. -/
abbrev Asking := StateM (List Question)

namespace Asking

variable {α β : Type}

@[simp] theorem pure_apply (a : α) (asked : List Question) :
    (pure a : Asking α) asked = (a, asked) := rfl

@[simp] theorem bind_apply (x : Asking α) (f : α → Asking β) (asked : List Question) :
    (x >>= f) asked = f (x asked).1 (x asked).2 := rfl

end Asking

namespace Services

/-- Asks for a template to be rendered. -/
def render (services : Services) (template : String) (root : Json) :
    Asking (Except String String) := fun asked =>
  (services.evaluator.render asked template root, .render template root :: asked)

/-- Asks for the truth of an expression. -/
def evaluate (services : Services) (expression : String) (document : Json) :
    Asking (Except String Bool) := fun asked =>
  (services.evaluator.evaluate asked expression document, .evaluate expression document :: asked)

/-- Asks for a text. -/
def generate (services : Services) (prompt : String) (config : Option Json)
    (conversation : Conversation) : Asking (Except String String) := fun asked =>
  (services.generator.generate asked prompt config conversation,
    .generate prompt config conversation :: asked)

/-- The answers depend on the question alone. -/
def Steady (services : Services) : Prop :=
  (∀ log log' template root, services.evaluator.render log template root =
    services.evaluator.render log' template root) ∧
  (∀ log log' expression document, services.evaluator.evaluate log expression document =
    services.evaluator.evaluate log' expression document) ∧
  (∀ log log' prompt config conversation,
    services.generator.generate log prompt config conversation =
      services.generator.generate log' prompt config conversation)

end Services

end DialogueFlow
