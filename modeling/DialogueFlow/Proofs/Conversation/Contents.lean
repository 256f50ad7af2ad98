/-
  The values inside a conversation: those that events carry, those of slots, and the contexts of the
  frames on the stack. A stored conversation holds values that can be stored again
  (`valuesFit_of_ofText?`), and a persisted stack is two levels deeper than its contexts
  (`contextsFit_of_decode`, `fits_toJson`).
-/
import DialogueFlow.Proofs.Conversation.Storage
import DialogueFlow.Proofs.Decode.Parts
import DialogueFlow.Stack

namespace DialogueFlow

open Decode (Gives)

variable {n : Nat}

/-! ## Events -/

namespace Event

/-- The values that the events give to slots are normal and nested at most `n` levels deep. -/
def ValuesFit (n : Nat) (events : List Event) : Prop := ∀ value ∈ values events, value.Fits n

theorem valuesFit_nil : ValuesFit n [] := fun _ hvalue => nomatch hvalue

theorem ValuesFit.append {first second : List Event} (hfirst : ValuesFit n first)
    (hsecond : ValuesFit n second) : ValuesFit n (first ++ second) := by
  unfold ValuesFit
  rw [values_append, List.forall_mem_append]
  exact ⟨hfirst, hsecond⟩

theorem valuesFit_slotSet {key : String} {value : Json} (h : value.Fits n) :
    ValuesFit n [.slotSet key value] := List.forall_mem_singleton.mpr h

theorem valuesFit_map {α : Type} {items : List α} {key : α → String} {value : α → Json}
    (h : ∀ item ∈ items, (value item).Fits n) :
    ValuesFit n (items.map fun item => .slotSet (key item) (value item)) := by
  intro given hgiven
  obtain ⟨name, hevent⟩ := mem_values.mp hgiven
  obtain ⟨item, hitem, heq⟩ := List.mem_map.mp hevent
  cases heq
  exact h item hitem

/-- The value of an event lies right inside the event. -/
theorem gives : Gives (fun part => part.depth ≤ n) decode fun event =>
    ∀ value ∈ values [event], value.depth ≤ n := by
  have hslotSet : Gives (fun part => part.depth ≤ n) (slotSetForm.decode .counted)
      fun record => record.2.depth ≤ n := by
    refine Gives.record (show Json.null.depth ≤ n from Nat.zero_le _) ?_ .counted
    intro record name value record' hrecord hvalue hset
    dsimp only [slotSetForm] at hset
    split at hset
    · obtain ⟨key, -, rfl⟩ := Decode.ok_of_map hset
      exact hrecord
    · cases hset
      exact hvalue
  refine Gives.tagged fun name decode hfound => ?_
  obtain ⟨title, hmem⟩ := Decode.Variants.mem_of_byName hfound
  simp only [variants, List.mem_cons, Prod.mk.injEq, List.not_mem_nil, or_false] at hmem
  rcases hmem with ⟨-, rfl⟩ | ⟨-, rfl⟩ | ⟨-, rfl⟩
  · exact hslotSet.map fun record h => List.forall_mem_singleton.mpr h
  all_goals
    intro _ _ _ h
    obtain ⟨_, -, rfl⟩ := Decode.ok_of_map h
    exact fun _ hvalue => nomatch hvalue

end Event

namespace SavedConversation

theorem gives : Gives (fun part => part.depth ≤ n + 2) decode fun saved =>
    ∀ value ∈ Event.values saved.events, value.depth ≤ n := by
  refine Gives.record (fun _ h => nomatch h) ?_ .refused
  intro saved name value saved' hsaved hvalue hset
  dsimp only [form] at hset
  split at hset
  · obtain ⟨sender, -, rfl⟩ := Decode.ok_of_map hset
    exact hsaved
  · obtain ⟨events, hevents, rfl⟩ := Decode.ok_of_map hset
    have hlist := Gives.list (P := fun part => part.depth ≤ n + 1)
      (fun _ h _ => Json.depth_of_mem_parts h) (Event.gives (n := n))
    exact Event.forall_values.mpr
      (hlist value events (fun _ => Json.depth_of_mem_parts hvalue) hevents)

/-- A stored conversation holds values that can be stored again. -/
theorem valuesFit_of_ofText? {text : String} {saved : SavedConversation}
    (h : ofText? text = some saved) : Event.ValuesFit storableDepth saved.events := by
  unfold ofText? at h
  split at h
  · cases h
  · rename_i value hparse
    split at h
    · cases h
    · rename_i raw hdecode
      cases h
      have hdepth := gives (n := storableDepth) value raw
        (fun _ => Json.depth_of_mem_parts (Json.depth_of_parseWanted? hparse)) hdecode
      intro given hgiven
      obtain ⟨key, hevent⟩ := Event.mem_values.mp hgiven
      obtain ⟨event, hmem, hnormal⟩ := List.mem_map.mp hevent
      cases event with
      | slotSet key value =>
        cases hnormal
        exact ⟨Json.isNormal_normal value,
          Json.depth_normal_le value (hdepth value (Event.mem_values.mpr ⟨key, hmem⟩))⟩
      | _ => cases hnormal

end SavedConversation

/-! ## Stacks -/

/-- The context of the frame, if it has one, is normal and nested at most `n` levels deep. -/
def Frame.ContextFits (n : Nat) (frame : Frame) : Prop :=
  ∀ context, frame.context = some context → (Json.obj context).Fits n

theorem Frame.gives : Gives (Json.Fits n) Frame.decode (ContextFits n) := by
  refine Gives.record (fun _ h => nomatch h) ?_ .refused
  intro frame name value frame' hframe hvalue hset
  dsimp only [Frame.form] at hset
  split at hset
  · obtain ⟨_, -, rfl⟩ := Decode.ok_of_map hset
    exact hframe
  · split at hset
    · obtain ⟨_, -, rfl⟩ := Decode.ok_of_map hset
      exact hframe
    · split at hset
      · obtain ⟨_, -, rfl⟩ := Decode.ok_of_map hset
        exact hframe
      · obtain ⟨found, hfound, rfl⟩ := Decode.ok_of_map hset
        cases value with
        | obj fields =>
          cases hfound
          rintro context ⟨⟩
          exact hvalue
        | null =>
          cases hfound
          exact fun _ h => nomatch h
        | _ => cases hfound

theorem Frame.ContextFits.fits_toRecord {frame : Frame} (h : frame.ContextFits n) :
    frame.toRecord.Fits (n + 1) := by
  have hcontext : ((frame.context.map Json.obj).getD .null).Fits n := by
    cases hframe : frame.context with
    | none => exact Json.fits_null n
    | some context => exact h context hframe
  have hnames : List.Pairwise (· < ·) ["context", "flow_id", "frame_type", "step_id"] := by decide
  refine Json.Fits.obj (List.pairwise_map.mp hnames) ?_
  simp only [List.forall_mem_cons]
  exact ⟨hcontext, Json.fits_str _ _, Json.fits_str _ _, Json.fits_str _ _, fun _ h => nomatch h⟩

namespace Stack

/-- The contexts of the frames are normal and nested at most `n` levels deep. -/
def ContextsFit (n : Nat) (stack : Stack) : Prop :=
  ∀ frame ∈ stack, frame.ContextFits n

theorem contextsFit_nil : ContextsFit n [] := fun _ hframe => nomatch hframe

theorem contextsFit_cons {frame : Frame} {stack : Stack} :
    ContextsFit n (frame :: stack) ↔ frame.ContextFits n ∧ ContextsFit n stack :=
  List.forall_mem_cons

theorem ContextsFit.moveTo {stack : Stack} (h : ContextsFit n stack) (id : String) :
    ContextsFit n (stack.moveTo id) := by
  cases stack with
  | nil => exact h
  | cons top below =>
    obtain ⟨htop, hbelow⟩ := contextsFit_cons.mp h
    exact contextsFit_cons.mpr ⟨htop, hbelow⟩

theorem ContextsFit.pushBelowTop {stack : Stack} (h : ContextsFit n stack) {frame : Frame}
    (hframe : frame.ContextFits n) : ContextsFit n (stack.pushBelowTop frame) := by
  cases stack with
  | nil => exact contextsFit_cons.mpr ⟨hframe, h⟩
  | cons top below =>
    obtain ⟨htop, hbelow⟩ := contextsFit_cons.mp h
    exact contextsFit_cons.mpr ⟨htop, contextsFit_cons.mpr ⟨hframe, hbelow⟩⟩

theorem contextsFit_of_decode {value : Json} {stack : Stack} (hvalue : value.Fits (n + 2))
    (h : decode value = .ok stack) : ContextsFit n stack := by
  unfold decode at h
  split at h
  · cases h
    exact contextsFit_nil
  · obtain ⟨frames, hframes, rfl⟩ := Decode.ok_of_map h
    have hall := Gives.list (P := Json.Fits (n + 1)) (fun _ h _ => h.of_mem_parts)
      (Frame.gives (n := n)) value frames (fun _ => hvalue.of_mem_parts) hframes
    exact fun frame hframe => hall frame (List.mem_reverse.mp hframe)

theorem fits_toJson {stack : Stack} (h : ContextsFit n stack) : stack.toJson.Fits (n + 2) := by
  refine Json.Fits.arr (List.forall_mem_map.mpr fun frame hframe => ?_)
  exact (h frame (List.mem_reverse.mp hframe)).fits_toRecord

end Stack

/-! ## Slots -/

/-- Setting a field of a domain keeps the slots, or reads them from the value. -/
theorem Domain.slots_of_set {surplus : Decode.Surplus} {domain domain' : Domain} {name : String}
    {value : Json} (h : (form surplus).set domain name value = .ok domain') :
    domain'.slots = domain.slots ∨
      Decode.table (slotForm.decode surplus) value = .ok domain'.slots := by
  dsimp only [form] at h
  split at h
  · obtain ⟨_, -, rfl⟩ := Decode.ok_of_map h
    exact Or.inl rfl
  · split at h
    · obtain ⟨_, -, rfl⟩ := Decode.ok_of_map h
      exact Or.inl rfl
    · obtain ⟨_, hslots, rfl⟩ := Decode.ok_of_map h
      exact Or.inr hslots

/-- The names of the slots of a domain that was read are in ascending order. -/
theorem Domain.sorted_of_decode {surplus : Decode.Surplus} {value : Json} {domain : Domain}
    (h : decode surplus value = .ok domain) : domain.slots.Sorted := by
  have hset : ∀ (domain : Domain) name value domain', domain.slots.Sorted →
      (form surplus).set domain name value = .ok domain' → domain'.slots.Sorted := by
    intro domain name value domain' hdomain hset
    rcases slots_of_set hset with heq | hslots
    · rw [heq]
      exact hdomain
    · exact Decode.sorted_of_table hslots
  exact Decode.RecordForm.decode_invariant hset List.Pairwise.nil h

/-- The initial values of a domain that was read from a normal value are normal. -/
theorem Domain.gives (surplus : Decode.Surplus) : Gives Json.IsNormal (decode surplus) fun domain =>
    ∀ entry ∈ domain.slots, entry.2.IsNormal := by
  have hdeeper : ∀ value : Json, value.IsNormal → ∀ part ∈ value.parts, part.IsNormal :=
    fun _ h _ => h.of_mem_parts
  have hslot : Gives Json.IsNormal (slotForm.decode surplus) Json.IsNormal := by
    refine Gives.record (show Json.null.IsNormal from trivial) ?_ surplus
    intro _ _ value initial _ hvalue hset
    dsimp only [slotForm] at hset
    split at hset
    · cases hset
      exact hvalue
    · cases hset
  refine Gives.record (fun _ h => nomatch h) ?_ surplus
  intro domain name value domain' hdomain hvalue hset
  rcases slots_of_set hset with heq | hslots
  · rw [heq]
    exact hdomain
  · exact Gives.table hdeeper hslot value _ (hdeeper value hvalue) hslots

namespace Conversation

/-- The values of the slots, also the initial ones, are normal and nested at most `n` levels
deep. -/
def SlotsFit (n : Nat) (conversation : Conversation) : Prop :=
  ∀ name slot, conversation.slot? name = some slot → slot.initial.Fits n ∧ slot.value.Fits n

theorem SlotsFit.initialValue {conversation : Conversation} (h : conversation.SlotsFit n)
    (name : String) : (conversation.initialValue name).Fits n := by
  unfold Conversation.initialValue
  cases hslot : conversation.slot? name with
  | none => exact Json.fits_null n
  | some slot => exact (h name slot hslot).1

theorem SlotsFit.record {conversation : Conversation} (h : conversation.SlotsFit n) {event : Event}
    (hevent : Event.ValuesFit n [event]) : (conversation.record event).SlotsFit n := by
  cases event with
  | slotSet key value =>
    have hvalue : value.Fits n := hevent value (List.mem_singleton_self _)
    intro name slot hslot
    unfold slot? Conversation.record applyToSlots at hslot
    rw [Table.get?_insert] at hslot
    split at hslot
    · cases hslot
      refine ⟨?_, hvalue⟩
      cases hold : conversation.slots.get? key with
      | none => exact Json.fits_null n
      | some old => exact (h key old hold).1
    · exact h name slot hslot
  | actionExecuted _ => exact h
  | userUttered _ => exact h

theorem SlotsFit.recordAll {conversation : Conversation} (h : conversation.SlotsFit n)
    {events : List Event} (hevents : Event.ValuesFit n events) :
    (conversation.recordAll events).SlotsFit n := by
  induction events generalizing conversation with
  | nil => exact h
  | cons event rest ih =>
    obtain ⟨hevent, hrest⟩ := List.forall_mem_cons.mp (Event.forall_values.mp hevents)
    exact ih (h.record hevent) (Event.forall_values.mpr hrest)

theorem slotsFit_fresh {domain : Domain} (h : ∀ entry ∈ domain.slots, entry.2.Fits n)
    (sender : String) : (fresh sender domain).SlotsFit n := by
  have hdeclared : ∀ name slot, (domain.slots.mapValues Slot.fresh).get? name = some slot →
      slot.initial.Fits n ∧ slot.value.Fits n := by
    intro name slot hslot
    rw [Table.get?_mapValues] at hslot
    obtain ⟨initial, hinitial, rfl⟩ := Option.map_eq_some_iff.mp hslot
    have hfits := h _ (Table.mem_of_get? hinitial)
    exact ⟨hfits, hfits⟩
  intro name slot hslot
  unfold slot? fresh at hslot
  dsimp only at hslot
  split at hslot
  · exact hdeclared name slot hslot
  · rw [Table.get?_insert] at hslot
    split at hslot
    · cases hslot
      exact ⟨Json.fits_null n, Json.fits_null n⟩
    · exact hdeclared name slot hslot

theorem SlotsFit.contextsFit {conversation : Conversation} (h : conversation.SlotsFit (n + 2))
    {stack : Stack} (hstack : Stack.ofConversation conversation = .ok stack) :
    stack.ContextsFit n := by
  unfold Stack.ofConversation at hstack
  split at hstack
  · rename_i value hvalue
    obtain ⟨slot, hslot, rfl⟩ := Option.map_eq_some_iff.mp hvalue
    exact Stack.contextsFit_of_decode (h _ slot hslot).2 hstack
  · cases hstack
    exact Stack.contextsFit_nil

end Conversation

end DialogueFlow
