/-
  What the end of a flow does to the slots. `mem_resetSlots_iff`: the slots that are reset are those
  that the flow scopes (`Flow.Scopes`). Events that give each slot one value leave the same slots in
  any order and however often they come (`foldl_applyToSlots_giving`), for only which slots are
  set matters. Main statement: `resets_restore_scoped`.
-/
import DialogueFlow.Pattern
import DialogueFlow.Proofs.Conversation.Replay

namespace DialogueFlow

/-! ## The slots that a flow scopes -/

/-- The task asks for the slot, to be reset at the end of the flow or not. -/
def Task.Collects (slot : String) (reset : Bool) : Task → Prop
  | .collect asked _ _ _ resets => asked = slot ∧ resets = reset
  | _ => False

/-- The task sets the slot. -/
def Task.Assigns (slot : String) : Task → Prop
  | .setSlots assignments => ∃ assignment ∈ assignments, assignment.key = slot
  | _ => False

instance (slot : String) (reset : Bool) : DecidablePred (Task.Collects slot reset)
  | .collect asked _ _ _ resets => inferInstanceAs (Decidable (asked = slot ∧ resets = reset))
  | .action _ | .setSlots _ | .branch | .link _ | .generateResponse _ _ => .isFalse id

instance (slot : String) : DecidablePred (Task.Assigns slot)
  | .setSlots assignments =>
    inferInstanceAs (Decidable (∃ assignment ∈ assignments, assignment.key = slot))
  | .action _ | .collect _ _ _ _ _ | .branch | .link _ | .generateResponse _ _ => .isFalse id

/-- The slot lasts as long as the flow: some step collects it to be reset, or some step sets it and
no step collects it to be kept. -/
def Flow.Scopes (flow : Flow) (slot : String) : Prop :=
  (∃ step ∈ flow.declared, step.task.Collects slot true) ∨
    (∃ step ∈ flow.declared, step.task.Assigns slot) ∧
      ¬ ∃ step ∈ flow.declared, step.task.Collects slot false

instance (flow : Flow) : DecidablePred flow.Scopes :=
  fun _ => inferInstanceAs (Decidable (_ ∨ _))

namespace Pattern

variable {flow : Flow} {slot : String}

theorem mem_collectedResets : slot ∈ collectedResets flow ↔
    ∃ step ∈ flow.declared, step.task.Collects slot true := by
  unfold collectedResets
  rw [List.mem_filterMap]
  refine exists_congr fun step => and_congr_right fun _ => ?_
  cases step.task with
  | collect asked utter rejections askBeforeFilling resets =>
    cases resets <;> simp [Task.Collects]
  | _ => simp [Task.Collects]

theorem mem_kept : slot ∈ kept flow ↔
    ∃ step ∈ flow.declared, step.task.Collects slot false := by
  unfold kept
  rw [List.mem_filterMap]
  refine exists_congr fun step => and_congr_right fun _ => ?_
  cases step.task with
  | collect asked utter rejections askBeforeFilling resets =>
    cases resets <;> simp [Task.Collects]
  | _ => simp [Task.Collects]

theorem mem_assigned : slot ∈ assigned flow ↔
    ∃ step ∈ flow.declared, step.task.Assigns slot := by
  unfold assigned
  rw [List.mem_flatMap]
  refine exists_congr fun step => and_congr_right fun _ => ?_
  cases step.task with
  | setSlots assignments => simp [Task.Assigns]
  | _ => simp [Task.Assigns]

/-- The slots that are reset at the end of a flow are those that it scopes. -/
theorem mem_resetSlots_iff : slot ∈ resetSlots flow ↔ flow.Scopes slot := by
  unfold resetSlots Flow.Scopes
  rw [List.mem_append, List.mem_filter, decide_eq_true_eq, mem_collectedResets, mem_assigned,
    mem_kept]

end Pattern

/-! ## Events that give each slot one value -/

/-- Events that set the slots of these names to the values given for them. -/
def Event.giving (values : String → Json) (names : List String) : List Event :=
  names.map fun name => .slotSet name (values name)

theorem Event.lastAssigned?_giving (values : String → Json) (names : List String)
    (name : String) : lastAssigned? name (giving values names) =
      if name ∈ names then some (values name) else none := by
  induction names with
  | nil => rfl
  | cons head rest ih =>
    have hcons : lastAssigned? name (giving values (head :: rest)) =
        (lastAssigned? name (giving values rest)).or
          (Event.assigned? name (.slotSet head (values head))) := lastAssigned?_cons _ _
    rw [hcons, ih, assigned?_slotSet]
    by_cases hrest : name ∈ rest
    · simp [hrest]
    · by_cases hhead : head = name
      · subst hhead
        simp [hrest]
      · simp [hrest, hhead, Ne.symm hhead]

/-- Events among those that give each slot one value do so themselves. -/
theorem Event.eq_giving {values : String → Json} {names : List String} {events : List Event}
    (h : ∀ event ∈ events, event ∈ giving values names) :
    ∃ among ⊆ names, events = giving values among := by
  induction events with
  | nil => exact ⟨[], List.nil_subset _, rfl⟩
  | cons event rest ih =>
    obtain ⟨hevent, hrest⟩ := List.forall_mem_cons.mp h
    obtain ⟨set, hset, rfl⟩ := ih hrest
    obtain ⟨name, hname, rfl⟩ := List.mem_map.mp hevent
    exact ⟨name :: set, List.cons_subset.mpr ⟨hname, hset⟩, rfl⟩

namespace Conversation

variable (slots : Table Slot) (values : String → Json) {first second : List String}

/-- Events whose slots are all set again leave nothing. -/
theorem foldl_applyToSlots_covered (h : first ⊆ second) :
    (Event.giving values (first ++ second)).foldl applyToSlots slots =
      (Event.giving values second).foldl applyToSlots slots := by
  induction first generalizing slots with
  | nil => rfl
  | cons name rest ih =>
    obtain ⟨hname, hrest⟩ := List.cons_subset.mp h
    have hagain : (Event.lastAssigned? name (Event.giving values (rest ++ second))).isSome := by
      rw [Event.lastAssigned?_giving, if_pos (List.mem_append_right _ hname)]
      rfl
    have hover := foldl_applyToSlots_overwritten slots (values name) hagain
    exact hover.trans (ih slots hrest)

/-- Only which slots are set matters: neither the order of the events nor how often they come. -/
theorem foldl_applyToSlots_giving (h : ∀ name, name ∈ first ↔ name ∈ second) :
    (Event.giving values first).foldl applyToSlots slots =
      (Event.giving values second).foldl applyToSlots slots := by
  have hcomm : ∀ event ∈ Event.giving values (second ++ first),
      ∀ other ∈ Event.giving values (second ++ first), ∀ slots,
        applyToSlots (applyToSlots slots event) other =
          applyToSlots (applyToSlots slots other) event := by
    intro event hevent other hother slots
    obtain ⟨name, -, rfl⟩ := List.mem_map.mp hevent
    obtain ⟨name', -, rfl⟩ := List.mem_map.mp hother
    by_cases heq : name = name'
    · rw [heq]
    · exact applyToSlots_comm slots heq _ _
  have hperm : (Event.giving values (second ++ first)).Perm
      (Event.giving values (first ++ second)) := List.perm_append_comm.map _
  calc (Event.giving values first).foldl applyToSlots slots
      _ = (Event.giving values (second ++ first)).foldl applyToSlots slots :=
        (foldl_applyToSlots_covered slots values fun name => (h name).mpr).symm
      _ = (Event.giving values (first ++ second)).foldl applyToSlots slots :=
        hperm.foldl_eq' hcomm slots
      _ = (Event.giving values second).foldl applyToSlots slots :=
        foldl_applyToSlots_covered slots values fun name => (h name).mp

end Conversation

/-! ## The end of a flow -/

theorem Pattern.resets_eq (flow : Flow) (conversation : Conversation) :
    resets flow conversation = Event.giving conversation.initialValue (resetSlots flow) := rfl

/-- The resets of a flow depend on the initial values alone, which no event changes. -/
theorem Pattern.resets_recordAll (flow : Flow) (conversation : Conversation)
    (events : List Event) :
    resets flow (conversation.recordAll events) = resets flow conversation := by
  have hinitial := funext (conversation.initialValue_recordAll events)
  rw [resets_eq, hinitial, resets_eq]

/-- The same resets in another order or repeated leave the same slots. -/
theorem Pattern.slots_recordAll_resets (flow : Flow) (conversation : Conversation)
    {again : List Event} (h : ∀ event, event ∈ again ↔ event ∈ resets flow conversation) :
    (conversation.recordAll again).slots =
      (conversation.recordAll (resets flow conversation)).slots := by
  rw [resets_eq] at h ⊢
  obtain ⟨names, hnames, rfl⟩ := Event.eq_giving fun event hevent => (h event).mp hevent
  rw [Conversation.slots_recordAll, Conversation.slots_recordAll]
  refine Conversation.foldl_applyToSlots_giving _ _ fun name => ⟨fun hname => hnames hname, ?_⟩
  intro hname
  have hmem := (h (.slotSet name (conversation.initialValue name))).mpr
    (List.mem_map_of_mem hname)
  obtain ⟨name', hname', heq⟩ := List.mem_map.mp hmem
  cases heq
  exact hname'

/-- What recording the resets of a flow does to a conversation: every slot that the flow scopes is at
its declared initial value, null if none is declared, and counts as set; every other slot is as it
was. The same resets in any order and however often they come leave the same slots, and after them
the flow resets the same slots to the same values. -/
theorem Pattern.resets_restore_scoped (flow : Flow) (sender : String) (domain : Domain)
    (log : List Event) :
    let before := Conversation.replay sender domain log
    let after := before.recordAll (resets flow before)
    (∀ name, flow.Scopes name →
      let initial := (domain.slots.get? name).getD .null
      after.slot? name = some ⟨initial, initial, true⟩) ∧
    (∀ name, ¬ flow.Scopes name → after.slot? name = before.slot? name) ∧
    (∀ again, (∀ event, event ∈ again ↔ event ∈ resets flow before) →
      (before.recordAll again).slots = after.slots) ∧
    resets flow after = resets flow before := by
  intro before after
  have hslot : ∀ name, after.slot? name =
      ((if name ∈ resetSlots flow then some (before.initialValue name) else none).map
        ((before.slot? name).getD (.fresh .null)).assign).or (before.slot? name) := by
    intro name
    rw [Conversation.slot?_recordAll, resets_eq, Event.lastAssigned?_giving]
  refine ⟨fun name hscopes => ?_, fun name hnot => ?_, fun again hagain => ?_, ?_⟩
  · intro initial
    have hinitial : before.initialValue name = initial :=
      Conversation.initialValue_replay sender domain log name
    rw [hslot, if_pos (mem_resetSlots_iff.mpr hscopes), ← hinitial, Conversation.initialValue]
    cases before.slot? name <;> rfl
  · rw [hslot, if_neg (mt mem_resetSlots_iff.mp hnot)]
    rfl
  · exact slots_recordAll_resets flow before hagain
  · exact resets_recordAll flow before _

/-- Sets a shape and a color, and asks for the size, twice, and for the shape, which is kept. -/
def Pattern.styling : Flow :=
  .ofDeclared "style" none
    [⟨"set", .setSlots [⟨"shape", .int 1⟩, ⟨"color", .int 2⟩], []⟩,
      ⟨"size", .collect "size" none [] false true, []⟩,
      ⟨"shape", .collect "shape" none [] false false, []⟩,
      ⟨"resize", .collect "size" none [] true true, []⟩]

/-- The size returns to the declared one and the color to null, while the shape is kept; so too when
the resets come backwards and then once more. -/
theorem Pattern.styling_resets_scoped :
    let domain : Domain := ⟨[], [], [("size", .str "medium")]⟩
    let before := Conversation.replay "user" domain
      [.slotSet "size" (.str "large"), .slotSet "shape" (.int 1), .slotSet "color" (.int 2)]
    let after := before.recordAll (resets styling before)
    let again := (resets styling before).reverse ++ resets styling before
    (styling.Scopes "size" ∧ after.slot? "size" = some ⟨.str "medium", .str "medium", true⟩) ∧
    (styling.Scopes "color" ∧ after.slot? "color" = some ⟨.null, .null, true⟩) ∧
    (¬ styling.Scopes "shape" ∧ after.slot? "shape" = before.slot? "shape") ∧
    ((∀ event, event ∈ again ↔ event ∈ resets styling before) ∧
      (before.recordAll again).slots = after.slots) := by
  intro domain before after again
  have hsize : styling.Scopes "size" := by decide
  have hcolor : styling.Scopes "color" := by decide
  have hshape : ¬ styling.Scopes "shape" := by decide
  have hagain : ∀ event, event ∈ again ↔ event ∈ resets styling before := by
    intro event
    rw [List.mem_append, List.mem_reverse, or_self]
  obtain ⟨hscoped, hother, hsame, -⟩ := resets_restore_scoped styling "user" domain
    [.slotSet "size" (.str "large"), .slotSet "shape" (.int 1), .slotSet "color" (.int 2)]
  exact ⟨⟨hsize, hscoped "size" hsize⟩, ⟨hcolor, hscoped "color" hcolor⟩,
    ⟨hshape, hother "shape" hshape⟩, hagain, hsame again hagain⟩

end DialogueFlow
