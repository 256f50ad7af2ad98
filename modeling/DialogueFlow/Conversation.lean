/-
  A conversation: an append-only log of events, and the slots that replaying the log over the
  domain's initial values gives. Slots change by events only.
-/
import DialogueFlow.Domain
import DialogueFlow.Event

namespace DialogueFlow

/-- One slot of a conversation. -/
structure Slot where
  initial : Json
  value : Json
  /-- Some event has set the slot, be it only back to its initial value. -/
  wasSet : Bool
  deriving DecidableEq, Repr

/-- A slot that no event has set. -/
def Slot.fresh (initial : Json) : Slot := ⟨initial, initial, false⟩

/-- The slot after an event set it. -/
def Slot.assign (slot : Slot) (value : Json) : Slot := { slot with value, wasSet := true }

structure Conversation where
  sender : String
  events : List Event
  slots : Table Slot
  deriving DecidableEq, Repr

namespace Conversation

/-- The slot that holds the dialogue stack between turns. -/
def stackSlot : String := "dialogue_stack"

/-- The conversation before its first event. The slot of the stack is always there. -/
def fresh (sender : String) (domain : Domain) : Conversation :=
  let slots := domain.slots.mapValues Slot.fresh
  ⟨sender, [], if slots.contains stackSlot then slots else slots.insert stackSlot (.fresh .null)⟩

/-- The effect of an event on the slots; a slot that nobody declared starts as null. -/
def applyToSlots (slots : Table Slot) : Event → Table Slot
  | .slotSet key value => slots.insert key (((slots.get? key).getD (.fresh .null)).assign value)
  | _ => slots

/-- Appends an event to the log and applies it to the slots. -/
def record (conversation : Conversation) (event : Event) : Conversation :=
  { conversation with
    events := conversation.events ++ [event]
    slots := applyToSlots conversation.slots event }

/-- Records events in order. -/
def recordAll (conversation : Conversation) (events : List Event) : Conversation :=
  events.foldl record conversation

/-- The conversation that a log describes. -/
def replay (sender : String) (domain : Domain) (events : List Event) : Conversation :=
  (fresh sender domain).recordAll events

/-- A slot by its name. -/
def slot? (conversation : Conversation) (name : String) : Option Slot :=
  conversation.slots.get? name

/-- The value of a slot, if there is such a slot. -/
def value? (conversation : Conversation) (name : String) : Option Json :=
  (conversation.slot? name).map (·.value)

/-- The initial value of a slot; null for a slot that does not exist. -/
def initialValue (conversation : Conversation) (name : String) : Json :=
  ((conversation.slot? name).map (·.initial)).getD .null

/-- The values of all slots but that of the stack. -/
def values (conversation : Conversation) : Table Json :=
  Table.mapValues Slot.value (List.filter (·.1 ≠ stackSlot) conversation.slots)

theorem recordAll_append (conversation : Conversation) (first second : List Event) :
    conversation.recordAll (first ++ second) = (conversation.recordAll first).recordAll second :=
  List.foldl_append

/-- Recording batches of events one after the other is recording all their events in order. -/
theorem foldl_recordAll (conversation : Conversation) (batches : List (List Event)) :
    batches.foldl recordAll conversation = conversation.recordAll batches.flatten :=
  List.foldl_flatten.symm

theorem events_recordAll (conversation : Conversation) (events : List Event) :
    (conversation.recordAll events).events = conversation.events ++ events := by
  induction events generalizing conversation with
  | nil => simp [recordAll]
  | cons event rest ih =>
    have h := ih (conversation.record event)
    simpa [recordAll, record] using h

theorem sender_recordAll (conversation : Conversation) (events : List Event) :
    (conversation.recordAll events).sender = conversation.sender := by
  induction events generalizing conversation with
  | nil => rfl
  | cons event rest ih => exact ih (conversation.record event)

end Conversation

end DialogueFlow
