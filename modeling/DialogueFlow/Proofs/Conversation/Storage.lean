/-
  Saved conversations. `ofText?_text`: the text of a conversation is read back exactly if none of the
  values that its events give to slots is nested deeper than `storableDepth`, and then as that
  conversation, up to the order of fields inside the values.
-/
import DialogueFlow.Proofs.Json.Printing
import DialogueFlow.SavedConversation

namespace DialogueFlow

/-- The values that events give to slots. -/
def Event.values (events : List Event) : List Json :=
  events.filterMap fun event =>
    match event with
    | .slotSet _ value => some value
    | _ => none

namespace Event

theorem mem_values {events : List Event} {value : Json} :
    value ∈ values events ↔ ∃ key, .slotSet key value ∈ events := by
  unfold values
  rw [List.mem_filterMap]
  constructor
  · rintro ⟨event, hevent, hvalue⟩
    cases event with
    | slotSet key given =>
      cases hvalue
      exact ⟨key, hevent⟩
    | _ => cases hvalue
  · rintro ⟨key, hevent⟩
    exact ⟨_, hevent, rfl⟩

theorem values_append (first second : List Event) :
    values (first ++ second) = values first ++ values second := List.filterMap_append

/-- Something holds of all values of events if it holds of that of each event. -/
theorem forall_values {P : Json → Prop} {events : List Event} :
    (∀ value ∈ values events, P value) ↔ ∀ event ∈ events, ∀ value ∈ values [event], P value := by
  simp only [mem_values, List.mem_singleton]
  constructor
  · rintro h event hevent value ⟨key, rfl⟩
    exact h value ⟨key, hevent⟩
  · rintro h value ⟨key, hevent⟩
    exact h _ hevent value ⟨key, rfl⟩

end Event

namespace SavedConversation

/-- How deep a value may be nested that is stored in an event: three levels lie around it. -/
def storableDepth : Nat := Json.depthLimit - 3

theorem depth_event_le {event : Event} :
    event.toJson.depth ≤ storableDepth + 1 ↔
      ∀ value ∈ Event.values [event], value.depth ≤ storableDepth := by
  cases event with
  | slotSet key value =>
    simp [Event.toJson, Event.values, Json.fieldsDepth_le, Json.depth]
  | actionExecuted action => simp [Event.toJson, Event.values, Json.depth, Json.fieldsDepth]
  | userUttered text => simp [Event.toJson, Event.values, Json.depth, Json.fieldsDepth]

theorem depth_toJson_le (saved : SavedConversation) :
    saved.toJson.depth ≤ Json.depthLimit ↔
      ∀ value ∈ Event.values saved.events, value.depth ≤ storableDepth := by
  have hevents : saved.toJson.depth ≤ Json.depthLimit ↔
      ∀ event ∈ saved.events, event.toJson.depth ≤ storableDepth + 1 := by
    rw [show Json.depthLimit = (storableDepth + 1) + 1 + 1 from rfl, toJson, Json.depth_obj_le]
    simp [Json.fieldsDepth_le, Json.itemsDepth_le, Json.depth]
  rw [hevents, Event.forall_values]
  simp only [depth_event_le]

theorem numbersRoundTrip_event {event : Event}
    (h : ∀ value ∈ Event.values [event], value.NumbersRoundTrip) :
    event.toJson.NumbersRoundTrip := by
  cases event with
  | slotSet key value => exact ⟨trivial, trivial, h value (List.mem_singleton_self _), trivial⟩
  | actionExecuted action => exact ⟨trivial, trivial, trivial⟩
  | userUttered text => exact ⟨trivial, trivial, trivial⟩

/-- The text of a conversation is read back exactly if none of its values is nested too deep. -/
theorem ofText?_text {saved : SavedConversation}
    (hnumbers : ∀ value ∈ Event.values saved.events, value.NumbersRoundTrip) :
    ofText? saved.text =
      if ∀ value ∈ Event.values saved.events, value.depth ≤ storableDepth then
        some { saved with events := saved.events.map normalEvent }
      else none := by
  have hfields : Json.FieldsRoundTrip
      [("sender_id", .str saved.sender), ("events", .arr (saved.events.map Event.toJson))] := by
    refine ⟨trivial, Json.itemsRoundTrip_iff.mpr ?_, trivial⟩
    exact List.forall_mem_map.mpr fun event hevent =>
      numbersRoundTrip_event (Event.forall_values.mp hnumbers event hevent)
  have hread : Json.parseWanted? (· ∈ form.names) saved.text =
      if saved.toJson.depth ≤ Json.depthLimit then some saved.toJson else none :=
    Json.parseWanted?_pretty hfields (by simp [form])
  have hdepth := depth_toJson_le saved
  rw [ofText?, hread]
  by_cases hle : ∀ value ∈ Event.values saved.events, value.depth ≤ storableDepth
  · rw [if_pos hle, if_pos (hdepth.mpr hle)]
    simp only [decode_toJson]
  · rw [if_neg hle, if_neg fun h => hle (hdepth.mp h)]

/-- Events of normal values stay as they are. -/
theorem map_normalEvent {events : List Event} (h : ∀ value ∈ Event.values events, value.IsNormal) :
    events.map normalEvent = events := by
  refine (List.map_congr_left fun event hevent => ?_).trans (List.map_id events)
  cases event with
  | slotSet key value =>
    rw [normalEvent, Json.normal_of_isNormal value (h value (Event.mem_values.mpr ⟨key, hevent⟩)),
      id]
  | actionExecuted _ => rfl
  | userUttered _ => rfl

end SavedConversation

end DialogueFlow
