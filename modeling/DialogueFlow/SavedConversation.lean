/-
  Conversations as they are kept between runs: the sender and the events, but not the slots, which
  replaying the events gives again. The text is indented JSON with a line break at the end.
-/
import DialogueFlow.Conversation
import DialogueFlow.Json.Selection

namespace DialogueFlow

structure SavedConversation where
  sender : String
  events : List Event
  deriving DecidableEq, Repr

namespace SavedConversation

/-- A conversation before its first event. -/
def fresh (sender : String) : SavedConversation := ⟨sender, []⟩

/-- What is kept of a conversation. -/
def ofConversation (conversation : Conversation) : SavedConversation :=
  ⟨conversation.sender, conversation.events⟩

/-- The conversation over a domain. -/
def toConversation (saved : SavedConversation) (domain : Domain) : Conversation :=
  .replay saved.sender domain saved.events

/-- The written form; without events there is only the sender. -/
def form : Decode.RecordForm SavedConversation where
  title := "struct StoredConversation"
  names := ["sender_id", "events"]
  required := ["sender_id"]
  blank := fresh ""
  set := fun saved name value =>
    if name = "sender_id" then (Decode.text value).map fun sender => { saved with sender }
    else (Decode.list Event.decode value).map fun events => { saved with events }

/-- Reads a saved conversation. -/
def decode : Decoder SavedConversation := form.decode .refused

/-- The saved conversation as an object. -/
def toJson (saved : SavedConversation) : Json :=
  .obj [("sender_id", .str saved.sender), ("events", .arr (saved.events.map Event.toJson))]

/-- The text of a saved conversation. -/
def text (saved : SavedConversation) : String := saved.toJson.pretty ++ "\n"

/-- The event with the objects in its value normal. -/
def normalEvent : Event → Event
  | .slotSet key value => .slotSet key value.normal
  | event => event

/-- The saved conversation of a text. -/
def ofText? (text : String) : Option SavedConversation :=
  match Json.parseWanted? (· ∈ form.names) text with
  | none => none
  | some value =>
    match decode value with
    | .error _ => none
    | .ok saved => some { saved with events := saved.events.map normalEvent }

/-- What was written as an object is read as it was. -/
theorem decode_toJson (saved : SavedConversation) : decode saved.toJson = .ok saved := by
  have h : Decode.list Event.decode (.arr (saved.events.map Event.toJson)) = .ok saved.events :=
    Decode.list_written fun event _ => event.decode_toJson
  simp [decode, toJson, Decode.RecordForm.decode, Decode.RecordForm.ofFields,
    Decode.RecordForm.setAll, form, Decode.text, Except.map, h]

end SavedConversation

end DialogueFlow
