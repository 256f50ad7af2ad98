/-
  What a log leaves in a slot. `value?_recordAll`: after events were recorded, a slot has the value
  that the last of them gave it, or the value it had before if none of them set it.
  `slot?_recordAll`: the same of the whole slot, whose initial value no event changes.
  `slots_replay_latest`: the last event to set each slot leaves the same slots as the whole log.
-/
import DialogueFlow.Conversation
import Mathlib.Tactic.Common

namespace DialogueFlow

/-- The value that the event gives the slot of this name. -/
def Event.assigned? (name : String) : Event → Option Json
  | .slotSet key value => if key = name then some value else none
  | _ => none

/-- The value that the last event to set the slot of this name gives it. -/
def Event.lastAssigned? (name : String) (events : List Event) : Option Json :=
  events.reverse.findSome? (assigned? name)

/-- The log cut down to the last event to set each slot. -/
def Event.latest : List Event → List Event
  | [] => []
  | .slotSet key value :: rest =>
    if (lastAssigned? key rest).isSome then latest rest else .slotSet key value :: latest rest
  | _ :: rest => latest rest

namespace Event

variable {name : String}

@[simp] theorem assigned?_slotSet (key : String) (value : Json) :
    (slotSet key value).assigned? name = if key = name then some value else none := rfl

theorem assigned?_eq_some_iff {event : Event} {value : Json} :
    event.assigned? name = some value ↔ event = .slotSet name value := by
  cases event with
  | slotSet key given => simp
  | actionExecuted _ => simp [assigned?]
  | userUttered _ => simp [assigned?]

theorem lastAssigned?_append (first second : List Event) :
    lastAssigned? name (first ++ second) =
      (lastAssigned? name second).or (lastAssigned? name first) := by
  unfold lastAssigned?
  rw [List.reverse_append, List.findSome?_append]

theorem lastAssigned?_singleton (event : Event) :
    lastAssigned? name [event] = event.assigned? name := by
  unfold lastAssigned?
  simp

theorem lastAssigned?_cons (event : Event) (rest : List Event) :
    lastAssigned? name (event :: rest) = (lastAssigned? name rest).or (event.assigned? name) := by
  rw [← List.singleton_append, lastAssigned?_append, lastAssigned?_singleton]

theorem lastAssigned?_eq_none_iff {events : List Event} :
    lastAssigned? name events = none ↔ ∀ event ∈ events, event.assigned? name = none := by
  unfold lastAssigned?
  simp

end Event

namespace Conversation

theorem get?_values (conversation : Conversation) (name : String) :
    Table.get? conversation.values name =
      if name = stackSlot then none else conversation.value? name := by
  unfold values value? slot?
  rw [Table.get?_mapValues, Table.get?_filter (fun name => decide (name ≠ stackSlot))]
  by_cases h : name = stackSlot <;> simp [h]

/-- The slot that an event sets takes the value and keeps its initial one; others stay. -/
theorem slot?_record_eq (conversation : Conversation) (event : Event) (name : String) :
    (conversation.record event).slot? name =
      ((event.assigned? name).map ((conversation.slot? name).getD (.fresh .null)).assign).or
        (conversation.slot? name) := by
  cases event with
  | slotSet key value =>
    unfold slot? record applyToSlots
    rw [Event.assigned?_slotSet, Table.get?_insert]
    by_cases hkey : key = name
    · subst hkey
      rw [if_pos rfl, if_pos rfl]
      rfl
    · rw [if_neg hkey, if_neg hkey]
      rfl
  | actionExecuted _ => rfl
  | userUttered _ => rfl

/-- An event leaves the slots that it does not set as they were. -/
theorem slot?_record {conversation : Conversation} {event : Event} {name : String}
    (h : event.assigned? name = none) :
    (conversation.record event).slot? name = conversation.slot? name := by
  rw [slot?_record_eq, h]
  rfl

theorem value?_record (conversation : Conversation) (event : Event) (name : String) :
    (conversation.record event).value? name =
      (event.assigned? name).or (conversation.value? name) := by
  unfold value?
  rw [slot?_record_eq]
  cases event.assigned? name <;> rfl

/-- After events were recorded, a slot is as the last of them that sets it leaves it. -/
theorem slot?_recordAll (conversation : Conversation) (events : List Event) (name : String) :
    (conversation.recordAll events).slot? name =
      ((Event.lastAssigned? name events).map
        ((conversation.slot? name).getD (.fresh .null)).assign).or (conversation.slot? name) := by
  induction events generalizing conversation with
  | nil => rfl
  | cons event rest ih =>
    have hrest : (conversation.recordAll (event :: rest)).slot? name = _ :=
      ih (conversation.record event)
    rw [hrest, slot?_record_eq, Event.lastAssigned?_cons]
    -- a later event overwrites what this one sets, and both keep the initial value
    cases Event.lastAssigned? name rest <;> cases event.assigned? name <;> rfl

/-- After events were recorded, a slot has the value that the last of them gave it, else the one it
had before. -/
theorem value?_recordAll (conversation : Conversation) (events : List Event) (name : String) :
    (conversation.recordAll events).value? name =
      (Event.lastAssigned? name events).or (conversation.value? name) := by
  unfold value?
  rw [slot?_recordAll]
  cases Event.lastAssigned? name events <;> rfl

/-- No event changes an initial value. -/
theorem initialValue_recordAll (conversation : Conversation) (events : List Event) (name : String) :
    (conversation.recordAll events).initialValue name = conversation.initialValue name := by
  unfold initialValue
  rw [slot?_recordAll]
  cases Event.lastAssigned? name events <;> cases conversation.slot? name <;> rfl

/-- Before the first event there are the declared slots and that of the stack. -/
theorem slot?_fresh (sender : String) (domain : Domain) (name : String) :
    (fresh sender domain).slot? name =
      ((domain.slots.get? name).map .fresh).or
        (if name = stackSlot then some (.fresh .null) else none) := by
  have hdeclared := Table.get?_mapValues Slot.fresh domain.slots
  unfold slot? fresh
  dsimp only
  by_cases hstack : name = stackSlot
  · subst hstack
    rw [if_pos rfl]
    unfold Table.contains
    rw [hdeclared]
    cases h : domain.slots.get? stackSlot with
    | none => exact Table.get?_insert_self _ _ _
    | some initial => simp [hdeclared, h]
  · rw [if_neg hstack, Option.or_none, ← hdeclared]
    split
    · rfl
    · rw [Table.get?_insert, if_neg (Ne.symm hstack)]

/-- The initial value of a slot is the declared one, and null if none is declared. -/
theorem initialValue_replay (sender : String) (domain : Domain) (events : List Event)
    (name : String) :
    (replay sender domain events).initialValue name = (domain.slots.get? name).getD .null := by
  unfold replay
  rw [initialValue_recordAll, initialValue, slot?_fresh]
  cases domain.slots.get? name with
  | some initial => rfl
  | none =>
    by_cases hstack : name = stackSlot
    · rw [if_pos hstack]
      rfl
    · rw [if_neg hstack]
      rfl

theorem slots_recordAll (conversation : Conversation) (events : List Event) :
    (conversation.recordAll events).slots = events.foldl applyToSlots conversation.slots := by
  induction events generalizing conversation with
  | nil => rfl
  | cons event rest ih => exact ih (conversation.record event)

theorem applyToSlots_slotSet (slots : Table Slot) (key : String) (value : Json) :
    applyToSlots slots (.slotSet key value) =
      slots.insert key (((slots.get? key).getD (.fresh .null)).assign value) := rfl

/-- Of two events that set a slot only the later one counts. -/
theorem applyToSlots_twice (slots : Table Slot) (key : String) (value later : Json) :
    applyToSlots (applyToSlots slots (.slotSet key value)) (.slotSet key later) =
      applyToSlots slots (.slotSet key later) := by
  simp only [applyToSlots_slotSet]
  rw [Table.get?_insert_self, Table.insert_insert]
  rfl

/-- Events that set different slots may come in either order. -/
theorem applyToSlots_comm (slots : Table Slot) {key other : String} (hne : key ≠ other)
    (value held : Json) :
    applyToSlots (applyToSlots slots (.slotSet key value)) (.slotSet other held) =
      applyToSlots (applyToSlots slots (.slotSet other held)) (.slotSet key value) := by
  simp only [applyToSlots_slotSet]
  rw [Table.get?_insert, if_neg hne, Table.get?_insert, if_neg hne.symm, Table.insert_comm _ hne]

/-- An event that a later one overwrites leaves nothing in the slots. -/
theorem foldl_applyToSlots_overwritten (slots : Table Slot) {key : String} (value : Json)
    {rest : List Event} (h : (Event.lastAssigned? key rest).isSome) :
    rest.foldl applyToSlots (applyToSlots slots (.slotSet key value)) =
      rest.foldl applyToSlots slots := by
  induction rest generalizing slots with
  | nil => cases h
  | cons event rest ih =>
    rw [List.foldl_cons, List.foldl_cons]
    rw [Event.lastAssigned?_cons] at h
    cases event with
    | slotSet other held =>
      by_cases hkey : key = other
      · rw [← hkey, applyToSlots_twice]
      · rw [Event.assigned?_slotSet, if_neg (Ne.symm hkey), Option.or_none] at h
        rw [applyToSlots_comm slots hkey, ih _ h]
    | actionExecuted _ => exact ih slots (by simpa [Event.assigned?] using h)
    | userUttered _ => exact ih slots (by simpa [Event.assigned?] using h)

theorem foldl_applyToSlots_latest (slots : Table Slot) (events : List Event) :
    (Event.latest events).foldl applyToSlots slots = events.foldl applyToSlots slots := by
  induction events generalizing slots with
  | nil => rfl
  | cons event rest ih =>
    cases event with
    | slotSet key value =>
      unfold Event.latest
      split
      · rename_i h
        rw [List.foldl_cons, foldl_applyToSlots_overwritten slots value h, ih]
      · exact ih _
    | actionExecuted _ => exact ih slots
    | userUttered _ => exact ih slots

/-- The last event to set each slot leaves the same slots as the whole log. -/
theorem slots_replay_latest (sender : String) (domain : Domain) (events : List Event) :
    (replay sender domain (Event.latest events)).slots = (replay sender domain events).slots := by
  unfold replay
  rw [slots_recordAll, slots_recordAll, foldl_applyToSlots_latest]

end Conversation

end DialogueFlow
