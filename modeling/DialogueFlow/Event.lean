/-
  What can happen in a conversation, and the written form of an event.
-/
import DialogueFlow.Decode.Tagged

namespace DialogueFlow

/-- Something that happened in a conversation. -/
inductive Event where
  | slotSet (key : String) (value : Json)
  | actionExecuted (action : String)
  | userUttered (text : String)
  deriving DecidableEq, Repr

namespace Event

/-- The event as an object: its kind first, then its fields. -/
def toJson : Event → Json
  | .slotSet key value =>
    .obj [("event", .str "slot_set"), ("key", .str key), ("value", value)]
  | .actionExecuted action =>
    .obj [("event", .str "action_executed"), ("action_name", .str action)]
  | .userUttered text => .obj [("event", .str "user_uttered"), ("text", .str text)]

/-- The fields of a slot event. -/
def slotSetForm : Decode.RecordForm (String × Json) where
  title := "struct variant Event::SlotSet"
  names := ["key", "value"]
  required := ["key", "value"]
  blank := ("", .null)
  set := fun record name value =>
    if name = "key" then (Decode.text value).map fun key => (key, record.2)
    else .ok (record.1, value)

/-- The field of an action event. -/
def actionExecutedForm : Decode.RecordForm String where
  title := "struct variant Event::ActionExecuted"
  names := ["action_name"]
  required := ["action_name"]
  blank := ""
  set := fun _ _ value => Decode.text value

/-- The field of a message event. -/
def userUtteredForm : Decode.RecordForm String where
  title := "struct variant Event::UserUttered"
  names := ["text"]
  required := ["text"]
  blank := ""
  set := fun _ _ value => Decode.text value

/-- The kinds of events. -/
def variants : Decode.Variants Event :=
  [("slot_set", fun value => (slotSetForm.decode .counted value).map fun r => .slotSet r.1 r.2),
    ("action_executed", fun value => (actionExecutedForm.decode .counted value).map .actionExecuted),
    ("user_uttered", fun value => (userUtteredForm.decode .counted value).map .userUttered)]

/-- Reads an event. -/
def decode : Decoder Event := Decode.tagged "Event" "event" variants.byName

/-- An event that was written is read as it was. -/
theorem decode_toJson (event : Event) : decode event.toJson = .ok event := by
  cases event <;> rfl

end Event

end DialogueFlow
