/-
  The domain of an assistant: the actions and responses that may be predicted besides the built-in
  ones, and the slots with their initial values.
-/
import DialogueFlow.Decode.Record

namespace DialogueFlow

structure Domain where
  actions : List String
  responses : List String
  /-- The initial value of every declared slot. -/
  slots : Table Json
  deriving DecidableEq, Repr

namespace Domain

/-- Wait for the next message of the user. -/
def listenAction : String := "action_listen"

/-- Send the text that the prediction carries. -/
def sendTextAction : String := "action_send_text"

/-- Run the rejection rules of the slot that is being collected. -/
def rejectionsAction : String := "action_run_slot_rejections"

/-- What every assistant can predict. -/
def builtIn : List String :=
  [listenAction, sendTextAction, rejectionsAction, "utter_flow_continue_interrupted",
    "utter_can_do_something_else"]

/-- The domain that declares nothing. -/
def empty : Domain := ⟨[], [], []⟩

/-- Every name that may be predicted, in ascending order. -/
def actionNames (domain : Domain) : List String :=
  Table.names (Table.ofEntries
    ((builtIn ++ domain.actions ++ domain.responses).map fun name => (name, ())))

theorem mem_actionNames (domain : Domain) (name : String) :
    name ∈ domain.actionNames ↔ name ∈ builtIn ++ domain.actions ++ domain.responses := by
  rw [actionNames, Table.mem_names_ofEntries, List.map_map]
  simp [Function.comp_def]

/-- The declaration of one slot; an initial value that is not given is null. Slots hold whole
numbers of 64 bits. -/
def slotForm : Decode.RecordForm Json where
  title := "struct SlotDefinition"
  names := ["initial_value"]
  required := []
  blank := .null
  set := fun _ _ value =>
    if value.hasWords then .ok value
    else .error (.wrongKind value "a value with numbers of 64 bits")

/-- The written form of a domain; whatever is left out is empty. -/
def form (surplus : Decode.Surplus) : Decode.RecordForm Domain where
  title := "struct Domain"
  names := ["actions", "responses", "slots"]
  required := []
  blank := empty
  set := fun domain name value =>
    if name = "actions" then
      (Decode.list Decode.text value).map fun actions => { domain with actions }
    else if name = "responses" then
      (Decode.list Decode.text value).map fun responses => { domain with responses }
    else
      (Decode.table (slotForm.decode surplus) value).map fun slots => { domain with slots }

/-- Reads a domain. -/
def decode (surplus : Decode.Surplus) : Decoder Domain := (form surplus).decode surplus

/-- The domain as an object. -/
def toJson (domain : Domain) : Json :=
  .obj [("actions", .arr (domain.actions.map .str)),
    ("responses", .arr (domain.responses.map .str)),
    ("slots", .obj (domain.slots.mapValues fun value => .obj [("initial_value", value)]))]

end Domain

end DialogueFlow
