/-
  The built-in flow that asks for a slot. `next_collectFlow`: it ends only from its branch, and only
  if the condition of the branch holds; it asks only from there if it does not, and it listens only
  after it asked. So services that tell whether the slot is filled (`Services.TellsFilled`) end it
  exactly if the slot is.
-/
import DialogueFlow.Proofs.Catalog.Merge
import DialogueFlow.Proofs.Conversation.Replay
import DialogueFlow.Proofs.Turn.Selection

namespace DialogueFlow

/-- Conditions see a value other than null in the slot. -/
def Conversation.Fills (conversation : Conversation) (slot : String) : Prop :=
  ∃ value, Table.get? conversation.values slot = some value ∧ value ≠ .null

/-- Under a context that names the slot as the one to collect, the condition that ends the collect
pattern holds exactly if the slot is filled. -/
def Services.TellsFilled (services : Services) (slot : String) : Prop :=
  ∀ (context : Table Json) (conversation : Conversation) (asked : List Question),
    Table.get? context "collect" = some (.str slot) →
      ((Condition.holds services Pattern.collectDone context conversation asked).1 = true ↔
        conversation.Fills slot)

/-- A filled slot has a value other than null. -/
theorem Conversation.Fills.value?_ne_null {conversation : Conversation} {slot : String}
    (h : conversation.Fills slot) :
    ∃ value, conversation.value? slot = some value ∧ value ≠ .null := by
  obtain ⟨value, hvalue, hne⟩ := h
  rw [get?_values] at hvalue
  split at hvalue
  · cases hvalue
  · exact ⟨value, hvalue, hne⟩

/-- A slot that was just set is filled unless it was set to null; that of the stack never is. -/
theorem Conversation.fills_record (conversation : Conversation) (slot : String) (value : Json) :
    (conversation.record (.slotSet slot value)).Fills slot ↔ slot ≠ stackSlot ∧ value ≠ .null := by
  unfold Fills
  rw [get?_values, value?_record, Event.assigned?_slotSet, if_pos rfl]
  by_cases h : slot = stackSlot <;> simp [h]

/-- The node of an id that resumes nothing has that id. -/
theorem Flow.id_of_node? {flow : Flow} {id : String} {node : Node}
    (hid : resumeTarget? id = none) (h : flow.node? id = some node) : node.id = id := by
  unfold node? at h
  rw [hid] at h
  simpa using List.find?_some h

namespace Pattern

theorem declared_collectFlow : collectFlow.declared =
    [⟨"start", .branch, [.when collectDone endId, .otherwise "ask_collect"]⟩,
      ⟨"ask_collect", .action (some "\x7b\x7b context.utter \x7d\x7d"), [.always "listen"]⟩,
      ⟨"listen", .action (some Domain.listenAction), [.always "start"]⟩] := rfl

variable {services : Services} {stack : Stack} {conversation : Conversation} {asked : List Question}

/-- The branch of the collect pattern ends it if the slot is filled, and else asks for the slot. -/
theorem nextId_branch (context : Table Json) :
    (Selection.nextId services
      (.step ⟨"start", .branch, [.when collectDone endId, .otherwise "ask_collect"]⟩) context
      conversation asked).1 =
        some (if (Condition.holds services collectDone context conversation asked).1 then endId
          else "ask_collect") := by
  have hblank : Text.isBlankText collectDone = false := by decide +kernel
  rw [Selection.nextId_choice (by simp [Node.next])]
  simp only [Node.next, Selection.firstHolding, hblank, Bool.false_eq_true, if_false,
    Asking.bind_apply]
  cases (Condition.holds services collectDone context conversation asked).1 <;> rfl

theorem sound_collectFlow : collectFlow.Sound := sound_flows.flows _ collectFlow_mem

theorem next_branch {node : Node}
    (h : (Selection.nextNode services
      (.step ⟨"start", .branch, [.when collectDone endId, .otherwise "ask_collect"]⟩)
      collectFlow stack conversation asked).1 = some node) :
    let done := (Condition.holds services collectDone stack.context conversation asked).1
    (node = .finish ∧ done = true) ∨ (node.id = "ask_collect" ∧ done = false) := by
  intro done
  rw [Selection.nextNode_apply, nextId_branch] at h
  dsimp only [Option.bind_some] at h
  cases hdone : done with
  | true =>
    rw [if_pos hdone, Flow.node?_endId sound_collectFlow] at h
    exact Or.inl ⟨(Option.some.inj h).symm, rfl⟩
  | false =>
    rw [if_neg (Bool.eq_false_iff.mp hdone)] at h
    exact Or.inr ⟨Flow.id_of_node? (by decide) h, rfl⟩

/-- The branch that the collect pattern starts with. -/
def start : Node := .step ⟨"start", .branch, [.when collectDone endId, .otherwise "ask_collect"]⟩

theorem node?_start : collectFlow.node? "start" = some start := rfl

/-- That branch leads to the end exactly if its condition holds. -/
theorem nextNode_start (stack : Stack) (conversation : Conversation) (asked : List Question) :
    (Selection.nextNode services start collectFlow stack conversation asked).1 =
      if (Condition.holds services collectDone stack.context conversation asked).1 then
        some .finish
      else collectFlow.node? "ask_collect" := by
  rw [start, Selection.nextNode_apply, nextId_branch]
  dsimp only [Option.bind_some]
  split
  · exact Flow.node?_endId sound_collectFlow
  · rfl

/-- A node of the collect pattern with a single unconditional link. -/
theorem next_single {current node : Node} {target : String}
    (hlink : current.next = [.always target]) (htarget : resumeTarget? target = none)
    (h : (Selection.nextNode services current collectFlow stack conversation asked).1 = some node) :
    node.id = target := by
  rw [Selection.nextNode_apply, Selection.nextId_single hlink] at h
  exact Flow.id_of_node? htarget h

/-- How the collect pattern gets from one node to the next. -/
theorem next_collectFlow {current node : Node} (hcurrent : collectFlow.HasCurrent current)
    (h : (Selection.nextNode services current collectFlow stack conversation asked).1 = some node) :
    let done := (Condition.holds services collectDone stack.context conversation asked).1
    (node = .finish ∧ done = true) ∨ (node.id = "ask_collect" ∧ done = false) ∨
      (node.id = "listen" ∧ current.id = "ask_collect") ∨ node.id = "start" := by
  intro done
  rw [Flow.HasCurrent, declared_collectFlow] at hcurrent
  rcases hcurrent with rfl | ⟨step, hstep, rfl⟩
  · exact Or.inr (Or.inr (Or.inr (next_single rfl (by decide) h)))
  · simp only [List.mem_cons, List.not_mem_nil, or_false] at hstep
    rcases hstep with rfl | rfl | rfl
    · exact (next_branch h).imp_right Or.inl
    · exact Or.inr (Or.inr (Or.inl ⟨next_single rfl (by decide) h, rfl⟩))
    · exact Or.inr (Or.inr (Or.inr (next_single rfl (by decide) h)))

end Pattern

end DialogueFlow
