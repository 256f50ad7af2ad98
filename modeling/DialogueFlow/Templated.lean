/-
  Services that work with templates: conditions are template expressions, and a prompt is a
  template over the slots and the sender, whose text without outer blanks is the response.
-/
import DialogueFlow.Services
import DialogueFlow.Template.Rendering

namespace DialogueFlow.Templated

/-- Renders and evaluates by the language of templates. -/
def evaluator : Evaluator where
  render := fun _ template root =>
    (Template.render template root).mapError Template.Failure.message
  evaluate := fun _ expression document =>
    (Template.holds expression document).mapError Template.Failure.message

/-- What prompts see. -/
def promptRoot (conversation : Conversation) : Json :=
  .obj [("sender_id", .str conversation.sender), ("slots", .obj conversation.values)]

/-- Renders a prompt. -/
def generator : Generator where
  generate := fun _ prompt _ conversation =>
    match Template.render prompt (promptRoot conversation) with
    | .ok text => .ok (Text.trim text)
    | .error _ => .error "render response prompt"

/-- The services that come with the program. -/
def services : Services := ⟨evaluator, generator⟩

/-- The answers of templates depend on the question alone. -/
theorem steady_services : services.Steady :=
  ⟨fun _ _ _ _ => rfl, fun _ _ _ _ => rfl, fun _ _ _ _ _ => rfl⟩

end DialogueFlow.Templated
