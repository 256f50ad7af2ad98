/-
  Steps as a flow's author declares them: an id, a task of one of six kinds, and links.
-/
import DialogueFlow.Flow.Link

namespace DialogueFlow

/-- A rule by which a collected value may be turned down. -/
structure Rejection where
  condition : String
  utter : String
  deriving DecidableEq, Repr

/-- One slot that a step sets, and its value. -/
structure Assignment where
  key : String
  value : Json
  deriving DecidableEq, Repr

/-- What a step does. -/
inductive Task where
  /-- Predict an action, named by a template. -/
  | action (name : Option String)
  /-- Ask for the value of a slot. -/
  | collect (slot : String) (utter : Option String) (rejections : List Rejection)
      (askBeforeFilling resetAfterFlowEnds : Bool)
  | setSlots (assignments : List Assignment)
  /-- Only choose among the links. -/
  | branch
  /-- Continue with another flow. -/
  | link (flow : String)
  /-- Send a text made from a prompt. -/
  | generateResponse (prompt : String) (config : Option Json)
  deriving DecidableEq, Repr

structure Step where
  id : String
  task : Task
  next : List Link
  deriving DecidableEq, Repr

namespace Rejection

/-- The rejection as an object. -/
def toJson (rejection : Rejection) : Json :=
  .obj [("if", .str rejection.condition), ("utter", .str rejection.utter)]

/-- The written form of a rejection. -/
def form : Decode.RecordForm Rejection where
  title := "struct SlotRejection"
  names := ["if", "utter"]
  required := ["if", "utter"]
  blank := ⟨"", ""⟩
  set := fun rejection name value =>
    (Decode.text value).map fun text =>
      if name = "if" then { rejection with condition := text } else { rejection with utter := text }

end Rejection

namespace Assignment

/-- The assignment as an object. -/
def toJson (assignment : Assignment) : Json :=
  .obj [("key", .str assignment.key), ("value", assignment.value)]

/-- The written form of an assignment. -/
def form : Decode.RecordForm Assignment where
  title := "struct SlotAssignment"
  names := ["key", "value"]
  required := ["key", "value"]
  blank := ⟨"", .null⟩
  set := fun assignment name value =>
    if name = "key" then (Decode.text value).map fun key => { assignment with key }
    else .ok { assignment with value }

end Assignment

namespace Task

/-- The written name of a task's kind. -/
def kindName : Task → String
  | .action _ => "action"
  | .collect .. => "collect"
  | .setSlots _ => "set_slots"
  | .branch => "branch"
  | .link _ => "link"
  | .generateResponse .. => "generate_response"

/-- A text or null. -/
def optionalText (text : Option String) : Json := (text.map Json.str).getD .null

/-- The fields of a task besides its kind; defaults are written out. -/
def fields : Task → List (String × Json)
  | .action name => [("action", optionalText name)]
  | .collect slot utter rejections askBeforeFilling resetAfterFlowEnds =>
    [("collect", .str slot), ("utter", optionalText utter),
      ("rejections", .arr (rejections.map Rejection.toJson)),
      ("ask_before_filling", .bool askBeforeFilling),
      ("reset_after_flow_ends", .bool resetAfterFlowEnds)]
  | .setSlots assignments => [("slots", .arr (assignments.map Assignment.toJson))]
  | .branch => []
  | .link flow => [("link", .str flow)]
  | .generateResponse prompt config =>
    [("prompt", .str prompt), ("llm_config", config.getD .null)]

/-- The field of an action step. -/
def actionForm : Decode.RecordForm (Option String) where
  title := "struct variant StepKind::Action"
  names := ["action"]
  required := []
  blank := none
  set := fun _ _ value => Decode.nullable Decode.text value

/-- The fields of a collect step as they are read. -/
structure CollectFields where
  slot : String
  utter : Option String
  rejections : List Rejection
  askBeforeFilling : Bool
  resetAfterFlowEnds : Bool

/-- The written form of a collect step: it does not ask before filling and resets at the end. -/
def collectForm : Decode.RecordForm CollectFields where
  title := "struct variant StepKind::Collect"
  names := ["collect", "utter", "rejections", "ask_before_filling", "reset_after_flow_ends"]
  required := ["collect"]
  blank := ⟨"", none, [], false, true⟩
  set := fun r name value =>
    if name = "collect" then (Decode.text value).map fun slot => { r with slot }
    else if name = "utter" then
      (Decode.nullable Decode.text value).map fun utter => { r with utter }
    else if name = "rejections" then
      (Decode.list (Rejection.form.decode .counted) value).map fun rejections => { r with rejections }
    else if name = "ask_before_filling" then
      (Decode.truth value).map fun askBeforeFilling => { r with askBeforeFilling }
    else (Decode.truth value).map fun resetAfterFlowEnds => { r with resetAfterFlowEnds }

/-- The field of a step that sets slots. -/
def setSlotsForm : Decode.RecordForm (List Assignment) where
  title := "struct variant StepKind::SetSlots"
  names := ["slots"]
  required := ["slots"]
  blank := []
  set := fun _ _ value => Decode.list (Assignment.form.decode .counted) value

/-- The field of a link step. -/
def linkForm : Decode.RecordForm String where
  title := "struct variant StepKind::Link"
  names := ["link"]
  required := ["link"]
  blank := ""
  set := fun _ _ value => Decode.text value

/-- The fields of a step that generates a text: the prompt and the settings. -/
def generateForm : Decode.RecordForm (String × Option Json) where
  title := "struct variant StepKind::GenerateResponse"
  names := ["prompt", "llm_config"]
  required := ["prompt"]
  blank := ("", none)
  set := fun r name value =>
    if name = "prompt" then (Decode.text value).map fun prompt => (prompt, r.2)
    else (Decode.nullable Decode.anything value).map fun config => (r.1, config)

/-- The kinds of tasks, in declaration order. -/
def variants : Decode.Variants Task :=
  [("action", fun value => (actionForm.decode .counted value).map .action),
    ("collect", fun value => (collectForm.decode .counted value).map fun r =>
      .collect r.slot r.utter r.rejections r.askBeforeFilling r.resetAfterFlowEnds),
    ("set_slots", fun value => (setSlotsForm.decode .counted value).map .setSlots),
    ("branch", fun _ => .ok .branch),
    ("link", fun value => (linkForm.decode .counted value).map .link),
    ("generate_response", fun value =>
      (generateForm.decode .counted value).map fun r => .generateResponse r.1 r.2)]

end Task

namespace Step

/-- The step as an object: its id, its kind, the fields of the task, and the links. -/
def toJson (step : Step) : Json :=
  .obj ([("id", .str step.id), ("type", .str step.task.kindName)] ++ step.task.fields ++
    [("next", .arr (step.next.map Link.toJson))])

/-- The fields that every step has: its id and its links. -/
def form : Decode.RecordForm (String × List Link) where
  title := "struct FlowStep"
  names := ["id", "next"]
  required := ["id"]
  blank := ("", [])
  set := fun r name value =>
    if name = "id" then (Decode.text value).map fun id => (id, r.2)
    else (Decode.list Link.decode value).map fun next => (r.1, next)

/-- Reads a step: first its id and links, then its task from the other fields. -/
def decode : Decoder Step
  | .obj fields =>
    match form.ofFields fields with
    | .error e => .error e
    | .ok (id, next) =>
      match Decode.taggedFields "type" Task.variants.byNameOrIndex
          (fields.filter fun field => field.1 ∉ form.names) with
      | .error e => .error e
      | .ok task => .ok ⟨id, task, next⟩
  | value => .error (.wrongKind value form.title)

end Step

end DialogueFlow
