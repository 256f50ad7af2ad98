/-
  What a turn reads of a conversation: the sender, and the slots without the value of the slot of
  the stack. With services that read no more than the sender and the values of the slots
  (`Services.ReadsValues`), those that come with the program among them, a turn cannot tell apart
  conversations that agree on these (`Conversation.Agrees`), whatever is in their logs and whatever
  was asked before. An event that a later one overwrites leaves nothing in the slots, so that a log
  may be cut down to the last event of every slot (`Event.latest`). Main statement:
  `turn_reads_slots`.
-/
import DialogueFlow.Scripted
import DialogueFlow.Templated
import DialogueFlow.Proofs.Conversation.Replay
import DialogueFlow.Proofs.Turn.Steadiness

namespace DialogueFlow

namespace Conversation

/-- The slot of this name with its value hidden if it is the slot of the stack. -/
def hidden (name : String) (slot : Slot) : Slot :=
  if name = stackSlot then { slot with value := .null } else slot

/-- The slots with the value of the slot of the stack hidden. -/
def shown (slots : Table Slot) : Table Slot :=
  List.map (fun entry => (entry.1, hidden entry.1 entry.2)) slots

/-- The conversations have the same sender and, but for the value of the slot of the stack, the same
slots. -/
structure Agrees (first second : Conversation) : Prop where
  sender : first.sender = second.sender
  slots : shown first.slots = shown second.slots

@[simp] theorem initial_hidden (name : String) (slot : Slot) :
    (hidden name slot).initial = slot.initial := by
  unfold hidden
  split <;> rfl

@[simp] theorem wasSet_hidden (name : String) (slot : Slot) :
    (hidden name slot).wasSet = slot.wasSet := by
  unfold hidden
  split <;> rfl

theorem hidden_of_ne {name : String} (h : name ≠ stackSlot) (slot : Slot) :
    hidden name slot = slot := if_neg h

theorem hidden_hidden (name : String) (slot : Slot) :
    hidden name (hidden name slot) = hidden name slot := by
  by_cases h : name = stackSlot
  · simp only [hidden, if_pos h]
  · simp only [hidden_of_ne h]

theorem shown_shown (slots : Table Slot) : shown (shown slots) = shown slots := by
  unfold shown
  rw [List.map_map]
  refine List.map_congr_left fun entry _ => ?_
  simp only [Function.comp_apply, hidden_hidden]

theorem get?_shown (slots : Table Slot) (name : String) :
    (shown slots).get? name = (slots.get? name).map (hidden name) := by
  induction slots with
  | nil => rfl
  | cons entry rest ih =>
    obtain ⟨head, slot⟩ := entry
    by_cases h : head = name
    · simp [shown, Table.get?, h]
    · simpa [shown, Table.get?, h] using ih

theorem shown_insert (slots : Table Slot) (name : String) (slot : Slot) :
    shown (slots.insert name slot) = (shown slots).insert name (hidden name slot) := by
  induction slots with
  | nil => rfl
  | cons entry rest ih =>
    obtain ⟨head, held⟩ := entry
    unfold shown at ih ⊢
    simp only [List.map_cons, Table.insert]
    split
    · rfl
    · split
      · rfl
      · rw [List.map_cons, ih]

/-- What an event leaves of the slots does not depend on the hidden value. -/
theorem shown_applyToSlots (slots : Table Slot) (event : Event) :
    shown (applyToSlots slots event) = shown (applyToSlots (shown slots) event) := by
  cases event with
  | slotSet key value =>
    have hslot : hidden key ((((shown slots).get? key).getD (.fresh .null)).assign value) =
        hidden key (((slots.get? key).getD (.fresh .null)).assign value) := by
      rw [get?_shown]
      cases slots.get? key with
      | none => rfl
      | some slot =>
        unfold Option.map Option.getD Slot.assign
        rw [initial_hidden]
    unfold applyToSlots
    rw [shown_insert, shown_insert, shown_shown, hslot]
  | actionExecuted _ => exact (shown_shown slots).symm
  | userUttered _ => exact (shown_shown slots).symm

/-- The values that expressions and prompts see can be read off the shown slots. -/
theorem values_shown (slots : Table Slot) :
    List.filter (·.1 ≠ stackSlot) (shown slots) = List.filter (·.1 ≠ stackSlot) slots := by
  induction slots with
  | nil => rfl
  | cons entry rest ih =>
    obtain ⟨name, slot⟩ := entry
    unfold shown at ih ⊢
    rw [List.map_cons]
    by_cases h : name = stackSlot
    · rw [List.filter_cons_of_neg (by simp [h]), List.filter_cons_of_neg (by simp [h]), ih]
    · rw [List.filter_cons_of_pos (by simp [h]), List.filter_cons_of_pos (by simp [h]), ih,
        hidden_of_ne h]

namespace Agrees

variable {first second : Conversation} (h : first.Agrees second)
include h

/-- A slot is there in both or in neither, and differs at most in its value. -/
theorem slot_cases (name : String) :
    (first.slot? name = none ∧ second.slot? name = none) ∨
      ∃ slot other, first.slot? name = some slot ∧ second.slot? name = some other ∧
        slot.initial = other.initial ∧ slot.wasSet = other.wasSet := by
  have hslot : (first.slot? name).map (hidden name) = (second.slot? name).map (hidden name) := by
    unfold Conversation.slot?
    rw [← get?_shown, ← get?_shown, h.slots]
  cases hfirst : first.slot? name with
  | none =>
    rw [hfirst, Option.map_none, eq_comm, Option.map_eq_none_iff] at hslot
    exact Or.inl ⟨rfl, hslot⟩
  | some slot =>
    rw [hfirst, Option.map_some, eq_comm, Option.map_eq_some_iff] at hslot
    obtain ⟨other, hother, hhidden⟩ := hslot
    have hinitial := congrArg Slot.initial hhidden
    have hwasSet := congrArg Slot.wasSet hhidden
    rw [initial_hidden, initial_hidden] at hinitial
    rw [wasSet_hidden, wasSet_hidden] at hwasSet
    exact Or.inr ⟨slot, other, rfl, hother, hinitial.symm, hwasSet.symm⟩

theorem values : first.values = second.values := by
  unfold Conversation.values
  rw [← values_shown first.slots, h.slots, values_shown]

theorem initialValue (name : String) : first.initialValue name = second.initialValue name := by
  unfold Conversation.initialValue
  rcases h.slot_cases name with ⟨hfirst, hsecond⟩ | ⟨slot, other, hfirst, hsecond, hinitial, -⟩
  · rw [hfirst, hsecond]
  · rw [hfirst, hsecond, Option.map_some, Option.map_some, hinitial]

theorem askAgain (name : String) (askBeforeFilling : Bool) :
    Interpreter.askAgain name askBeforeFilling first =
      Interpreter.askAgain name askBeforeFilling second := by
  unfold Interpreter.askAgain
  rcases h.slot_cases name with
    ⟨hfirst, hsecond⟩ | ⟨slot, other, hfirst, hsecond, hinitial, hwasSet⟩
  · rw [hfirst, hsecond]
  · rw [hfirst, hsecond]
    simp only [hinitial, hwasSet]

theorem record (event : Event) : (first.record event).Agrees (second.record event) where
  sender := h.sender
  slots := by
    unfold Conversation.record
    rw [shown_applyToSlots, h.slots, ← shown_applyToSlots]

theorem recordAll (events : List Event) :
    (first.recordAll events).Agrees (second.recordAll events) := by
  induction events generalizing first second with
  | nil => exact h
  | cons event rest ih => exact ih (h.record event)

end Agrees

end Conversation

/-- An evaluator that comes with the program: by templates, or by a script. -/
inductive Evaluator.Bundled : Evaluator → Prop
  | templated : Bundled Templated.evaluator
  | scripted (answers : List (String × Bool)) (default : Bool) :
      Bundled (Scripted.evaluator answers default)

/-- A generator that comes with the program: by templates, or by a script. -/
inductive Generator.Bundled : Generator → Prop
  | templated : Bundled Templated.generator
  | scripted (text : Option String) : Bundled (Scripted.generator text)

namespace Services

/-- The services come with the program. -/
structure Bundled (services : Services) : Prop where
  evaluator : services.evaluator.Bundled
  generator : services.generator.Bundled

/-- The answers depend on the question alone, and what is generated from a conversation on its
sender and on the values that prompts see. -/
structure ReadsValues (services : Services) : Prop where
  steady : services.Steady
  generate : ∀ {first second : Conversation}, first.sender = second.sender →
    first.values = second.values → ∀ asked prompt config,
      services.generator.generate asked prompt config first =
        services.generator.generate asked prompt config second

theorem Bundled.readsValues {services : Services} (h : services.Bundled) :
    services.ReadsValues := by
  obtain ⟨evaluator, generator⟩ := services
  obtain ⟨hevaluator, hgenerator⟩ := h
  refine ⟨⟨?_, ?_, ?_⟩, ?_⟩
  · cases hevaluator <;> exact fun _ _ _ _ => rfl
  · cases hevaluator <;> exact fun _ _ _ _ => rfl
  · cases hgenerator <;> exact fun _ _ _ _ _ => rfl
  · intro first second hsender hvalues asked prompt config
    cases hgenerator with
    | templated =>
      have hroot : Templated.promptRoot first = Templated.promptRoot second := by
        unfold Templated.promptRoot
        rw [hsender, hvalues]
      simp only [hroot]
    | scripted text => rfl

/-- Services that read no more than values cannot tell apart conversations that agree. -/
theorem ReadsValues.indistinct {services : Services} (h : services.ReadsValues) :
    services.Indistinct Conversation.Agrees where
  steady := h.steady
  values := fun hagrees => hagrees.values
  initialValue := fun hagrees => funext hagrees.initialValue
  askAgain := fun hagrees => hagrees.askAgain
  recordAll := fun hagrees => hagrees.recordAll
  generate := fun hagrees => h.generate hagrees.sender hagrees.values

end Services

namespace Turn

open Asking

/-- Whole turns of related conversations that hold the same stack come to the same. -/
theorem related_advance {services : Services} {R : Conversation → Conversation → Prop}
    (hservices : services.Indistinct R) (domain : Domain) (catalog : Catalog) (ceiling : Nat)
    {first second : Conversation} (h : R first second)
    (hstack : Stack.ofConversation first = Stack.ofConversation second) :
    Related Eq (advance first domain catalog services ceiling)
      (advance second domain catalog services ceiling) := by
  unfold advance
  rw [← hstack]
  cases Stack.ofConversation first with
  | error cause => exact related_pure rfl
  | ok stack =>
    cases stack with
    | nil => exact related_pure rfl
    | cons top below =>
      refine related_bind (related_selectAction hservices ceiling _ h) ?_
      rintro ran _ rfl
      exact related_pure rfl

/-- With services that read no more than the sender and the values, as those that come with the
program do, a turn depends on the past of a conversation only through its sender and its slots
without the value of the slot of the stack. So the last event to set each slot is all that a whole
turn needs of a log. -/
theorem turn_reads_slots (ceiling : Nat) (catalog : Catalog) :
    (∀ services : Services, services.Bundled → services.ReadsValues) ∧
    ∀ services : Services, services.ReadsValues →
      (∀ (actions : List String) (stack : Stack) (first second : Conversation)
        (asked asked' : List Question), first.Agrees second →
          (selectAction ⟨catalog, actions, services⟩ ceiling stack first asked).1 =
            (selectAction ⟨catalog, actions, services⟩ ceiling stack second asked').1) ∧
      ∀ (sender : String) (domain : Domain) (log : List Event) (asked asked' : List Question),
        (advance (.replay sender domain log) domain catalog services ceiling asked).1 =
          (advance (.replay sender domain (Event.latest log)) domain catalog services ceiling
            asked').1 := by
  refine ⟨fun services hbundled => hbundled.readsValues, fun services hreads => ?_⟩
  have hindistinct := hreads.indistinct
  constructor
  · intro actions stack first second asked asked' hagrees
    exact related_selectAction hindistinct ceiling stack hagrees asked asked'
  · intro sender domain log asked asked'
    have hslots := Conversation.slots_replay_latest sender domain log
    have hsender : (Conversation.replay sender domain log).sender =
        (Conversation.replay sender domain (Event.latest log)).sender := by
      unfold Conversation.replay
      rw [Conversation.sender_recordAll, Conversation.sender_recordAll]
    have hstack : Stack.ofConversation (.replay sender domain log) =
        Stack.ofConversation (.replay sender domain (Event.latest log)) := by
      unfold Stack.ofConversation Conversation.value? Conversation.slot?
      rw [hslots]
    have hagrees : (Conversation.replay sender domain log).Agrees
        (.replay sender domain (Event.latest log)) := ⟨hsender, by rw [hslots]⟩
    exact related_advance hindistinct domain catalog ceiling hagrees hstack asked asked'

/-- Sends a text about a size. -/
def describing : Catalog :=
  [.ofDeclared "describe" none
    [⟨"say", .generateResponse "size \x7b\x7b slots.size \x7d\x7d" none, []⟩]]

/-- The stack on which the text is still to be sent. -/
def describingStack : Stack := [.atStart "describe" .regular]

/-- A size was given twice, with a message between, and the flow was started. -/
def resized : List Event :=
  [.slotSet "size" (.str "small"), .userUttered "larger please", .slotSet "size" (.str "large"),
    describingStack.persist]

/-- The same slots after a shorter log in which no flow was started. -/
def unstarted : List Event := [.slotSet "size" (.str "large"), Stack.persist []]

theorem bundled_services : Templated.services.Bundled := ⟨.templated, .templated⟩

/-- The text is the same where no flow was started, and after the last size alone. -/
theorem resized_reads_slots :
    Templated.services.Bundled ∧
    ((Conversation.replay "user" .empty resized).Agrees (.replay "user" .empty unstarted) ∧
      (selectAction ⟨describing, [], Templated.services⟩ 250 describingStack
        (.replay "user" .empty resized) []).1 =
          (selectAction ⟨describing, [], Templated.services⟩ 250 describingStack
            (.replay "user" .empty unstarted) []).1) ∧
    Event.latest resized = [.slotSet "size" (.str "large"), describingStack.persist] ∧
      (advance (.replay "user" .empty resized) .empty describing Templated.services 250 []).1 =
        (advance (.replay "user" .empty (Event.latest resized)) .empty describing
          Templated.services 250 []).1 := by
  have hagrees : (Conversation.replay "user" .empty resized).Agrees
      (.replay "user" .empty unstarted) := ⟨rfl, by decide⟩
  obtain ⟨hbundled, hall⟩ := turn_reads_slots 250 describing
  have hreads := hall Templated.services (hbundled Templated.services bundled_services)
  refine ⟨bundled_services, ⟨hagrees, ?_⟩, by decide, ?_⟩
  · exact hreads.1 [] describingStack _ _ [] [] hagrees
  · exact hreads.2 "user" .empty resized [] []

end Turn

end DialogueFlow
