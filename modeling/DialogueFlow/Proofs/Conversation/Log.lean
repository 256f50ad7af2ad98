/-
  A conversation and its log. In whatever batches the events came, the conversation is the replay of
  its log, and a slot holds what the log says of it (`Slot.LeftBy`): the value that was given last,
  else the initial one, which no event changes. The slots that are there are the declared ones, that
  of the stack, and those that the log sets (`isSome_slot?_replay`). Their names stay in ascending
  order, so that the values are listed by name and once each (`mem_values_iff`). Main statement:
  `follows_log`.
-/
import DialogueFlow.Proofs.Conversation.Contents
import DialogueFlow.Proofs.Conversation.Replay

namespace DialogueFlow

/-! ## What a log says of a slot -/

namespace Event

variable {name : String} {value : Json} {log : List Event}

/-- Some event of the log sets the slot of this name. -/
def Sets (name : String) (log : List Event) : Prop := ∃ value, .slotSet name value ∈ log

/-- The last event of the log to set the slot of this name gives it this value. -/
def SetsLast (name : String) (value : Json) (log : List Event) : Prop :=
  ∃ before after, log = before ++ .slotSet name value :: after ∧ ¬ Sets name after

theorem lastAssigned?_eq_none_iff_not_sets : lastAssigned? name log = none ↔ ¬ Sets name log := by
  rw [lastAssigned?_eq_none_iff]
  constructor
  · rintro h ⟨value, hvalue⟩
    have hnone := h _ hvalue
    rw [assigned?_eq_some_iff.mpr rfl] at hnone
    cases hnone
  · intro h event hevent
    refine Option.eq_none_iff_forall_ne_some.mpr fun value hvalue => h ⟨value, ?_⟩
    rw [← assigned?_eq_some_iff.mp hvalue]
    exact hevent

theorem isSome_lastAssigned?_iff : (lastAssigned? name log).isSome ↔ Sets name log := by
  rw [Option.isSome_iff_ne_none, ne_eq, lastAssigned?_eq_none_iff_not_sets, not_not]

instance (name : String) (log : List Event) : Decidable (Sets name log) :=
  decidable_of_iff _ isSome_lastAssigned?_iff

/-- What a search from the end of the log finds is the value that was given last. -/
theorem lastAssigned?_eq_some_iff :
    lastAssigned? name log = some value ↔ SetsLast name value log := by
  constructor
  · intro h
    -- the search runs over the reversed log, so what it passes over comes after what it finds
    obtain ⟨passed, event, rest, hlog, hevent, hpassed⟩ := List.findSome?_eq_some_iff.mp h
    obtain rfl := assigned?_eq_some_iff.mp hevent
    refine ⟨rest.reverse, passed.reverse, ?_, ?_⟩
    · rw [← List.reverse_reverse log, hlog]
      simp
    · rw [← lastAssigned?_eq_none_iff_not_sets, lastAssigned?_eq_none_iff]
      exact fun event hevent => hpassed event (List.mem_reverse.mp hevent)
  · rintro ⟨before, after, rfl, hafter⟩
    rw [lastAssigned?_append, lastAssigned?_cons, lastAssigned?_eq_none_iff_not_sets.mpr hafter,
      assigned?_slotSet, if_pos rfl]
    rfl

end Event

namespace Slot

/-- The slot of this name before any event, whether it is there then or not. -/
def declared (domain : Domain) (name : String) : Slot :=
  .fresh ((domain.slots.get? name).getD .null)

/-- The slot is as this log over the domain leaves the slot of this name. -/
@[mk_iff]
structure LeftBy (domain : Domain) (log : List Event) (name : String) (slot : Slot) : Prop where
  /-- No event changes the initial value. -/
  initial : slot.initial = (domain.slots.get? name).getD .null
  /-- The last write counts, and without one the initial value. -/
  value : Event.SetsLast name slot.value log ∨
    ¬ Event.Sets name log ∧ slot.value = slot.initial
  /-- A write counts also if it only puts the initial value back. -/
  wasSet : slot.wasSet = true ↔ Event.Sets name log

/-- A log leaves exactly one slot: the declared one with the value that was found last, if any. -/
theorem leftBy_iff_eq {domain : Domain} {log : List Event} {name : String} {slot : Slot} :
    slot.LeftBy domain log name ↔
      slot = ((Event.lastAssigned? name log).map (declared domain name).assign).getD
        (declared domain name) := by
  obtain ⟨initial, held, wasSet⟩ := slot
  rw [leftBy_iff, ← Event.lastAssigned?_eq_some_iff, ← Event.isSome_lastAssigned?_iff]
  cases Event.lastAssigned? name log with
  | some value => simp [declared, fresh, assign, eq_comm (a := value)]
  | none => simp +contextual [declared, fresh]

end Slot

namespace Conversation

section Replay

variable (sender : String) (domain : Domain) (log : List Event) (name : String)

/-- There are the declared slots, that of the stack, and those that the log sets. -/
theorem isSome_slot?_replay : ((replay sender domain log).slot? name).isSome ↔
    domain.slots.contains name ∨ name = stackSlot ∨ Event.Sets name log := by
  unfold replay Table.contains
  rw [slot?_recordAll, slot?_fresh, ← Event.isSome_lastAssigned?_iff]
  by_cases hstack : name = stackSlot <;> simp [hstack, or_comm]

theorem getD_slot?_fresh :
    ((fresh sender domain).slot? name).getD (.fresh .null) = .declared domain name := by
  rw [slot?_fresh, Slot.declared]
  cases domain.slots.get? name with
  | some initial => rfl
  | none => by_cases hstack : name = stackSlot <;> simp [hstack]

/-- A slot that is there is as the log leaves it. -/
theorem slot?_replay_eq_some_iff {slot : Slot} :
    (replay sender domain log).slot? name = some slot ↔
      ((replay sender domain log).slot? name).isSome ∧ slot.LeftBy domain log name := by
  have hfresh := getD_slot?_fresh sender domain name
  unfold replay
  rw [Slot.leftBy_iff_eq, slot?_recordAll, hfresh]
  cases Event.lastAssigned? name log with
  | some value => simp [eq_comm]
  | none =>
    -- a slot that the log does not set is there only if it was before the first event
    cases hslot : (fresh sender domain).slot? name with
    | some first =>
      rw [hslot, Option.getD_some] at hfresh
      simp [hfresh, eq_comm]
    | none => simp

end Replay

/-! ## The listed values -/

theorem sorted_fresh (sender : String) {domain : Domain} (h : domain.slots.Sorted) :
    (fresh sender domain).slots.Sorted := by
  have hslots := Table.sorted_mapValues h Slot.fresh
  unfold fresh
  dsimp only
  split
  · exact hslots
  · exact Table.sorted_insert hslots _ _

theorem sorted_applyToSlots {slots : Table Slot} (h : slots.Sorted) (event : Event) :
    (applyToSlots slots event).Sorted := by
  cases event with
  | slotSet key value => exact Table.sorted_insert h _ _
  | actionExecuted _ => exact h
  | userUttered _ => exact h

/-- Events keep the names of the slots in ascending order. -/
theorem sorted_recordAll {conversation : Conversation} (h : conversation.slots.Sorted)
    (events : List Event) : (conversation.recordAll events).slots.Sorted := by
  induction events generalizing conversation with
  | nil => exact h
  | cons event rest ih => exact ih (sorted_applyToSlots h event)

theorem sorted_values {conversation : Conversation} (h : conversation.slots.Sorted) :
    conversation.values.Sorted :=
  Table.sorted_mapValues (List.Pairwise.filter _ h) _

/-- The values list the slots that are there but for that of the stack. -/
theorem mem_values_iff {conversation : Conversation} (h : conversation.slots.Sorted)
    {name : String} {value : Json} : (name, value) ∈ conversation.values ↔
      name ≠ stackSlot ∧ conversation.value? name = some value := by
  rw [Table.mem_iff_get? (sorted_values h), get?_values]
  by_cases hstack : name = stackSlot <;> simp [hstack]

/-! ## Conversations and their logs -/

/-- A conversation in which batches of events were recorded is the replay of its log, and its log is
the batches joined; so the same events in other batches give the same conversation. A slot is there
exactly if it is declared, is that of the stack, or is set by the log, and is then as the log leaves
it. Initial values are the declared ones, null if none is declared, and no event changes them. The
values list, by name and once each, the slots that are there but for that of the stack. Saved and
loaded over the same domain, the conversation is as it was. -/
theorem follows_log (sender : String) (domain : Domain) (batches : List (List Event)) :
    let conversation := batches.foldl recordAll (fresh sender domain)
    let log := conversation.events
    log = batches.flatten ∧ conversation = replay sender domain log ∧
    (∀ other : List (List Event), other.flatten = log →
      other.foldl recordAll (fresh sender domain) = conversation) ∧
    (∀ name, ((conversation.slot? name).isSome ↔
        domain.slots.contains name ∨ name = stackSlot ∨ Event.Sets name log) ∧
      ∀ slot, conversation.slot? name = some slot ↔
        (conversation.slot? name).isSome ∧ slot.LeftBy domain log name) ∧
    (∀ name, conversation.initialValue name = (domain.slots.get? name).getD .null ∧
      ∀ event, (conversation.record event).initialValue name = conversation.initialValue name) ∧
    ((∀ name, Table.get? conversation.values name =
        if name = stackSlot then none else conversation.value? name) ∧
      (domain.slots.Sorted → conversation.values.Sorted ∧ ∀ name value,
        (name, value) ∈ conversation.values ↔
          name ≠ stackSlot ∧ conversation.value? name = some value)) ∧
    (SavedConversation.ofConversation conversation).toConversation domain = conversation := by
  intro conversation log
  have hlog : log = batches.flatten := by
    unfold log conversation
    rw [foldl_recordAll]
    exact events_recordAll _ _
  have hreplay : conversation = replay sender domain log := by
    rw [hlog]
    exact foldl_recordAll _ _
  have hsender : conversation.sender = sender := by
    rw [hreplay]
    exact sender_recordAll _ _
  refine ⟨hlog, hreplay, fun other hother => ?_, fun name => ⟨?_, fun slot => ?_⟩,
    fun name => ⟨?_, fun event => ?_⟩, ⟨fun name => ?_, fun hdomain => ?_⟩, ?_⟩
  · rw [foldl_recordAll, hother]
    exact hreplay.symm
  · rw [hreplay]
    exact isSome_slot?_replay sender domain log name
  · rw [hreplay]
    exact slot?_replay_eq_some_iff sender domain log name
  · rw [hreplay]
    exact initialValue_replay sender domain log name
  · exact initialValue_recordAll conversation [event] name
  · exact get?_values conversation name
  · have hsorted : conversation.slots.Sorted := by
      rw [hreplay]
      exact sorted_recordAll (sorted_fresh sender hdomain) log
    exact ⟨sorted_values hsorted, fun name value => mem_values_iff hsorted⟩
  · unfold SavedConversation.toConversation SavedConversation.ofConversation
    rw [hsender]
    exact hreplay.symm

/-- Declares a size, and the slot of the stack anew. -/
def sizesDocument : Json :=
  .obj [("slots", .obj [("size", .obj [("initial_value", .str "medium")]),
    ("dialogue_stack", .obj [("initial_value", .arr [])])])]

/-- The domain of the document. -/
def sizes : Domain := ⟨[], [], [("dialogue_stack", .arr []), ("size", .str "medium")]⟩

/-- A size is given; after an empty batch the stack is emptied and a color is set that nobody
declared; then the size is put back. -/
def sizing : List (List Event) :=
  [[.userUttered "large", .slotSet "size" (.str "large")], [],
    [.slotSet stackSlot .null, .slotSet "color" (.str "red")], [.slotSet "size" (.str "medium")]]

/-- Recorded at once, the events leave the same conversation. The size counts as set although it is
back at its initial value; the color is listed and the stack is not. -/
theorem sizes_follow_log :
    let conversation := sizing.foldl recordAll (fresh "user" sizes)
    let size : Slot := ⟨.str "medium", .str "medium", true⟩
    ([sizing.flatten].flatten = conversation.events ∧
      [sizing.flatten].foldl recordAll (fresh "user" sizes) = conversation) ∧
    (size.LeftBy sizes conversation.events "size" ∧ conversation.slot? "size" = some size) ∧
    (Domain.decode .ignored sizesDocument = .ok sizes ∧ sizes.slots.Sorted ∧
      ("color", .str "red") ∈ conversation.values ∧ (stackSlot, .null) ∉ conversation.values) := by
  intro conversation size
  have hread : Domain.decode .ignored sizesDocument = .ok sizes := rfl
  have hsorted : sizes.slots.Sorted := Domain.sorted_of_decode hread
  obtain ⟨hlog, -, hother, hslots, -, ⟨-, hvalues⟩, -⟩ := follows_log "user" sizes sizing
  have hjoined : [sizing.flatten].flatten = conversation.events :=
    (List.append_nil _).trans hlog.symm
  have hsize : size.LeftBy sizes conversation.events "size" :=
    ⟨rfl, Or.inl ⟨(sizing.take 3).flatten, [], hlog, by decide⟩, by decide⟩
  obtain ⟨-, hlisted⟩ := hvalues hsorted
  refine ⟨⟨hjoined, hother _ hjoined⟩, ⟨hsize, ?_⟩, hread, hsorted, ?_, ?_⟩
  · exact ((hslots "size").2 size).mpr ⟨by decide, hsize⟩
  · exact (hlisted "color" _).mpr ⟨by decide, by decide⟩
  · exact fun hstack => ((hlisted stackSlot _).mp hstack).1 rfl

end Conversation

end DialogueFlow
