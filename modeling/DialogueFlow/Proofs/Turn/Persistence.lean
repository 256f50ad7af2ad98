/-
  The persisted stack. A turn works on a stack of its own and persists it only when it differs from
  the one it read, while steps may write the slot of the stack as any other. `advance_persists_iff`:
  a committed turn that came back to the stack it read is read back as that stack exactly if what
  the turn last wrote to the slot reads as that stack; every other turn is read back as it ended.
  Where no step of the catalog writes the slot, every turn is.
-/
import DialogueFlow.Proofs.Catalog.Loading
import DialogueFlow.Proofs.Catalog.Merge
import DialogueFlow.Proofs.Conversation.Replay
import DialogueFlow.Proofs.Turn.Iteration
import DialogueFlow.Proofs.Turn.Selection
import DialogueFlow.Scripted

namespace DialogueFlow

/-! ## Slots that no step writes -/

/-- The slots that a step may write, when it is interpreted or when its flow ends. -/
def Step.assigns (step : Step) : List String :=
  match step.task with
  | .collect slot .. => [slot]
  | .setSlots assignments => assignments.map (·.key)
  | _ => []

/-- No step of the flow writes the slot. -/
def Flow.Spares (flow : Flow) (slot : String) : Prop := ∀ step ∈ flow.declared, slot ∉ step.assigns

/-- No step of the catalog writes the slot. -/
def Catalog.Spares (catalog : Catalog) (slot : String) : Prop := ∀ flow ∈ catalog, flow.Spares slot

/-- None of the events sets the slot. -/
def Event.Spare (slot : String) (events : List Event) : Prop :=
  ∀ event ∈ events, event.assigned? slot = none

theorem Event.spare_nil (slot : String) : Event.Spare slot [] := fun _ hevent => nomatch hevent

theorem Event.Spare.append {slot : String} {first second : List Event} (hfirst : Spare slot first)
    (hsecond : Spare slot second) : Spare slot (first ++ second) := by
  intro event hevent
  rcases List.mem_append.mp hevent with h | h
  · exact hfirst event h
  · exact hsecond event h

theorem Event.spare_map {α : Type} {slot : String} {items : List α} {key : α → String}
    {value : α → Json} (h : ∀ item ∈ items, key item ≠ slot) :
    Spare slot (items.map fun item => .slotSet (key item) (value item)) := by
  intro event hevent
  obtain ⟨item, hitem, rfl⟩ := List.mem_map.mp hevent
  rw [assigned?_slotSet, if_neg (h item hitem)]

namespace Pattern

/-- Only slots that a step writes are reset at the end of a flow. -/
theorem mem_resetSlots {flow : Flow} {slot : String} (h : slot ∈ resetSlots flow) :
    ∃ step ∈ flow.declared, slot ∈ step.assigns := by
  rcases List.mem_append.mp h with h | h
  · obtain ⟨step, hstep, hslot⟩ := List.mem_filterMap.mp h
    refine ⟨step, hstep, ?_⟩
    unfold Step.assigns
    split at hslot <;> simp_all
  · obtain ⟨step, hstep, hslot⟩ := List.mem_flatMap.mp (List.mem_filter.mp h).1
    refine ⟨step, hstep, ?_⟩
    unfold Step.assigns
    split at hslot <;> simp_all

theorem spare_resets {flow : Flow} {slot : String} (h : flow.Spares slot)
    (conversation : Conversation) : Event.Spare slot (resets flow conversation) := by
  refine Event.spare_map fun reset hreset heq => ?_
  obtain ⟨step, hstep, hslot⟩ := mem_resetSlots hreset
  exact h step hstep (heq ▸ hslot)

theorem spares_addTo {catalog : Catalog} (h : catalog.Spares Conversation.stackSlot) :
    (addTo catalog).Spares Conversation.stackSlot := by
  have hflows : ∀ flow ∈ flows, ∀ step ∈ flow.declared, Conversation.stackSlot ∉ step.assigns := by
    decide
  intro flow hflow
  rcases Catalog.mem_merge hflow with h' | h'
  · exact h flow h'
  · exact hflows flow h'

end Pattern

namespace Interpreter

variable {setting : Setting} {flow : Flow} {stack after : Stack} {conversation : Conversation}

theorem spare_askAgain {slot name : String} (h : slot ≠ name) (askBeforeFilling : Bool)
    (conversation : Conversation) :
    Event.Spare name (askAgain slot askBeforeFilling conversation) := by
  unfold askAgain
  split
  · split
    · exact List.forall_mem_singleton.mpr (if_neg h)
    · exact Event.spare_nil name
  · exact Event.spare_nil name

/-- The events of a flow that does not write a slot spare it. -/
theorem Effect.spare {slot : String} (hflow : flow.Spares slot) {node : Node}
    (hnode : ∀ step, node = .step step → step ∈ flow.declared) {outcome : Outcome}
    (h : Effect setting flow stack conversation node (.ok (outcome, after))) :
    Event.Spare slot outcome.events := by
  cases h with
  | collected htask =>
    refine spare_askAgain (fun heq => ?_) _ conversation
    have hspares := hflow _ (hnode _ rfl)
    rw [Step.assigns, htask] at hspares
    exact hspares (heq ▸ List.mem_singleton_self _)
  | assigned htask =>
    refine Event.spare_map fun assignment hassignment heq => ?_
    have hspares := hflow _ (hnode _ rfl)
    rw [Step.assigns, htask] at hspares
    exact hspares (heq ▸ List.mem_map_of_mem hassignment)
  | ended hstack => exact Pattern.spare_resets hflow conversation
  | _ => exact Event.spare_nil slot

end Interpreter

theorem Flow.mem_of_node? {flow : Flow} {id : String} {step : Step}
    (h : flow.node? id = some (.step step)) : step ∈ flow.declared := by
  unfold node? at h
  split at h
  · split at h <;> cases h
  · have hmem := List.mem_of_find?_eq_some h
    simp only [nodes, List.mem_cons, List.mem_append, List.mem_map] at hmem
    rcases hmem with hmem | ⟨declared, hdeclared, hstep⟩ | hmem
    · cases hmem
    · cases hstep
      exact hdeclared
    · simp at hmem

theorem Selection.mem_of_nextNode {services : Services} {current : Node} {flow : Flow}
    {stack : Stack} {conversation : Conversation} {asked : List Question} {step : Step}
    (h : (nextNode services current flow stack conversation asked).1 = some (.step step)) :
    step ∈ flow.declared := by
  rw [nextNode_apply] at h
  obtain ⟨id, -, hnode⟩ := Option.bind_eq_some_iff.mp h
  exact Flow.mem_of_node? hnode

namespace Turn

variable {setting : Setting}

/-- The events of an iteration over a catalog that does not write a slot spare it. -/
theorem Iteration.spare {slot : String} (hcatalog : setting.catalog.Spares slot)
    {progress : Progress} {outcome : Progress × Option (Except FlowError Prediction)}
    (hprogress : Event.Spare slot progress.events) (h : Iteration setting progress outcome) :
    Event.Spare slot outcome.1.events := by
  cases h with
  | proceeded hat hnext heffect =>
    refine hprogress.append (heffect.spare (hcatalog _ (Catalog.mem_of_flow? hat.flow_eq)) ?_)
    rintro step rfl
    exact Selection.mem_of_nextNode hnext
  | paused => exact hprogress.append (Event.spare_nil slot)
  | _ => exact hprogress

/-- A prediction has all events of its turn. -/
theorem Iteration.prediction_events {before after : Progress} {prediction : Prediction}
    (h : Iteration setting before (after, some (.ok prediction))) :
    prediction.events = after.events := by
  cases h <;> rfl

theorem selectAction_spare {slot : String} (hcatalog : setting.catalog.Spares slot) {ceiling : Nat}
    {stack : Stack} {conversation : Conversation} {asked : List Question} {prediction : Prediction}
    (h : (selectAction setting ceiling stack conversation asked).1.2 = .ok prediction) :
    Event.Spare slot prediction.events := by
  obtain ⟨hended, hresult⟩ := loop_cases (P := fun progress => Event.Spare slot progress.events)
    (fun _ _ hprogress hiteration => hiteration.spare hcatalog hprogress) ceiling ceiling
    ⟨stack, conversation, []⟩ (Event.spare_nil slot) asked
  rw [selectAction_apply] at h
  dsimp only at h
  rcases hresult with htripped | ⟨before, -, hiteration⟩
  · rw [h] at htripped
    cases htripped
  · rw [h] at hiteration
    rw [hiteration.prediction_events]
    exact hended

/-! ## Reading the stack back -/

/-- The stack that the loop of a turn ends with; empty where no stack can be read. -/
def leftBehind (conversation : Conversation) (domain : Domain) (catalog : Catalog)
    (services : Services) (ceiling : Nat) (asked : List Question) : Stack :=
  match Stack.ofConversation conversation with
  | .error _ => []
  | .ok stack =>
    (selectAction ⟨catalog, domain.actionNames, services⟩ ceiling stack conversation asked).1.1

variable {conversation : Conversation} {domain : Domain} {catalog : Catalog} {services : Services}
  {ceiling : Nat} {asked : List Question} {prediction : Prediction}

theorem selectAction_nil (setting : Setting) (ceiling : Nat) (conversation : Conversation)
    (asked : List Question) : (selectAction setting ceiling [] conversation asked).1.1 = [] := by
  rw [selectAction_apply]
  cases ceiling <;> rfl

/-- What a turn without an error has done. -/
theorem advance_ok
    (h : (advance conversation domain catalog services ceiling asked).1 = .ok prediction) :
    ∃ before, Stack.ofConversation conversation = .ok before ∧ ∃ plain : Prediction,
      prediction = persisting before
        (leftBehind conversation domain catalog services ceiling asked) plain ∧
      (catalog.Spares Conversation.stackSlot →
        Event.Spare Conversation.stackSlot plain.events) := by
  obtain ⟨before, hbefore, ⟨rfl, rfl⟩ | ⟨-, plain, hplain, rfl⟩⟩ := advance_cases h
  · refine ⟨[], hbefore, .nothing, ?_, fun _ => Event.spare_nil _⟩
    unfold leftBehind
    rw [hbefore]
    dsimp only
    rw [selectAction_nil, persisting, if_pos rfl]
  · refine ⟨before, hbefore, plain, ?_, fun hcatalog => selectAction_spare hcatalog hplain⟩
    unfold leftBehind
    rw [hbefore]
    rfl

theorem ofConversation_eq (conversation : Conversation) :
    Stack.ofConversation conversation =
      ((conversation.value? Conversation.stackSlot).map Stack.decode).getD (.ok []) := by
  unfold Stack.ofConversation
  cases conversation.value? Conversation.stackSlot <;> rfl

/-- The stack that is read after events is the one that was written last. -/
theorem ofConversation_recordAll (conversation : Conversation) (events : List Event) :
    Stack.ofConversation (conversation.recordAll events) =
      ((Event.lastAssigned? Conversation.stackSlot events).map Stack.decode).getD
        (Stack.ofConversation conversation) := by
  rw [ofConversation_eq, ofConversation_eq, Conversation.value?_recordAll]
  cases Event.lastAssigned? Conversation.stackSlot events <;> rfl

theorem lastAssigned?_persist (events : List Event) (stack : Stack) :
    Event.lastAssigned? Conversation.stackSlot (events ++ [stack.persist]) = some stack.toJson := by
  rw [Event.lastAssigned?_append, Event.lastAssigned?_singleton, Stack.persist,
    Event.assigned?_slotSet, if_pos rfl, Option.some_or]

/-- A committed turn is read back as the stack it ended with exactly if, in case it came back to the
stack it read, what it last wrote to the slot of the stack reads as that stack. It is so whenever no
declared step writes that slot. -/
theorem advance_persists_iff {declared : Catalog}
    (h : (advance conversation domain (Pattern.addTo declared) services ceiling asked).1 =
      .ok prediction) :
    let after := leftBehind conversation domain (Pattern.addTo declared) services ceiling asked
    let committed := conversation.recordAll prediction.events
    (Stack.ofConversation committed = .ok after ↔
      (Stack.ofConversation conversation = .ok after → ∀ value,
        Event.lastAssigned? Conversation.stackSlot prediction.events = some value →
          Stack.decode value = .ok after)) ∧
    (declared.Spares Conversation.stackSlot → Stack.ofConversation committed = .ok after) := by
  obtain ⟨before, hbefore, plain, hprediction, hspare⟩ := advance_ok h
  intro after committed
  have hread : Stack.ofConversation committed =
      ((Event.lastAssigned? Conversation.stackSlot prediction.events).map Stack.decode).getD
        (.ok before) := by
    rw [← hbefore]
    exact ofConversation_recordAll conversation prediction.events
  by_cases hsame : after = before
  · have hevents : prediction.events = plain.events := by
      rw [hprediction, persisting, if_pos (Stack.toJson_inj.mpr hsame)]
    rw [hread, hbefore, hsame]
    refine ⟨?_, fun hdeclared => ?_⟩
    · cases Event.lastAssigned? Conversation.stackSlot prediction.events with
      | none => simp
      | some value => simp
    · rw [hevents, Event.lastAssigned?_eq_none_iff.mpr (hspare (Pattern.spares_addTo hdeclared))]
      rfl
  · have hchanged : Stack.ofConversation committed = .ok after := by
      rw [hread, hprediction, persisting, if_neg (fun heq => hsame (Stack.toJson_inj.mp heq)),
        lastAssigned?_persist]
      exact Stack.decode_toJson after
    refine ⟨⟨fun _ hread => ?_, fun _ => hchanged⟩, fun _ => hchanged⟩
    rw [hbefore, Except.ok.injEq] at hread
    exact absurd hread.symm hsame

/-- The services of the turns below: templates stand for themselves and no condition holds. -/
def plainServices : Services := ⟨Scripted.evaluator [] false, Scripted.generator none⟩

/-- A turn that starts the order flow and waits for the user. -/
theorem order_turn_persists :
    let conversation := (Conversation.fresh "user" .empty).record
      (Stack.persist [.atStart "order" .regular])
    ∃ prediction, (advance conversation .empty (Pattern.addTo Catalog.order) plainServices 9 []).1 =
        .ok prediction ∧
      Stack.ofConversation (conversation.recordAll prediction.events) =
        .ok (leftBehind conversation .empty (Pattern.addTo Catalog.order) plainServices 9 []) := by
  intro conversation
  have hok : (advance conversation .empty (Pattern.addTo Catalog.order) plainServices 9
      []).1.toOption.isSome = true := by decide +kernel
  have hspares : ∀ flow ∈ Catalog.order, ∀ step ∈ flow.declared,
      Conversation.stackSlot ∉ step.assigns := by decide
  cases hturn : (advance conversation .empty (Pattern.addTo Catalog.order) plainServices 9
      []).1 with
  | error cause =>
    rw [hturn] at hok
    cases hok
  | ok prediction => exact ⟨prediction, rfl, (advance_persists_iff hturn).2 hspares⟩

/-- The text of a catalog with a flow that empties the slot of the stack before it repeats. -/
def emptyingText : String :=
  "\x7b\"flows\":[\x7b\"id\":\"f\",\"steps\":[\x7b\"id\":\"a\",\"type\":\"action\"," ++
  "\"action\":\"utter_a\"\x7d,\x7b\"id\":\"set\",\"type\":\"set_slots\",\"slots\":[\x7b" ++
  "\"key\":\"dialogue_stack\",\"value\":null\x7d],\"next\":[\x7b\"kind\":\"static\"," ++
  "\"target\":\"a\"\x7d]\x7d]\x7d]\x7d"

/-- The catalog of that text. -/
def emptying : Catalog :=
  [.ofDeclared "f" none [⟨"a", .action (some "utter_a"), []⟩,
    ⟨"set", .setSlots [⟨Conversation.stackSlot, .null⟩], [.always "a"]⟩]]

/-- A turn that comes back to the stack it read, with the slot of the stack emptied on the way: no
stack is read back, though the flow goes on. -/
theorem emptying_turn_lost :
    let stack : Stack := [⟨"f", "a", .regular, none⟩]
    let conversation := (Conversation.fresh "user" .empty).record stack.persist
    let domain : Domain := ⟨["utter_a"], [], []⟩
    Catalog.load emptyingText = .ok emptying ∧
    ∃ prediction, (advance conversation domain (Pattern.addTo emptying) plainServices 250 []).1 =
        .ok prediction ∧
      leftBehind conversation domain (Pattern.addTo emptying) plainServices 250 [] = stack ∧
      Stack.ofConversation (conversation.recordAll prediction.events) = .ok [] := by
  intro stack conversation domain
  have hload : Catalog.load emptyingText = .ok emptying := by decide +kernel
  have hevents : (advance conversation domain (Pattern.addTo emptying) plainServices 250
      []).1.map Prediction.events = .ok [.slotSet Conversation.stackSlot .null] := by decide +kernel
  have hleft : leftBehind conversation domain (Pattern.addTo emptying) plainServices 250 [] =
      stack := by decide +kernel
  refine ⟨hload, ?_⟩
  cases hturn : (advance conversation domain (Pattern.addTo emptying) plainServices 250 []).1 with
  | error cause =>
    rw [hturn] at hevents
    cases hevents
  | ok prediction =>
    rw [hturn, Except.map, Except.ok.injEq] at hevents
    refine ⟨prediction, rfl, hleft, ?_⟩
    rw [hevents]
    decide +kernel

end Turn

end DialogueFlow
