/-
  A turn sees a catalog only through the flows that it looks up. What reads the catalog is the top of
  an iteration and the patterns at the end of a flow, so catalogs that look up the same flows come to
  the same iterations (`iterate_congr`), loops and turns (`advance_congr`). Where ids are distinct the
  order of the flows makes no difference to what is looked up (`sameFlows_of_perm`). Main statement:
  `merged_by_lookup`.
-/
import DialogueFlow.Proofs.Catalog.Loading
import DialogueFlow.Proofs.Catalog.Merge
import DialogueFlow.Turn

namespace DialogueFlow

namespace Catalog

/-- Both catalogs have the same flow of every id, or neither has one. -/
def SameFlows (first second : Catalog) : Prop := ∀ id, first.flow? id = second.flow? id

/-- Where ids are distinct, the flow of an id is the one flow that has it. -/
theorem flow?_eq_some_iff {catalog : Catalog} (h : (catalog.map (·.id)).Nodup) {id : String}
    {flow : Flow} : catalog.flow? id = some flow ↔ flow ∈ catalog ∧ flow.id = id := by
  constructor
  · intro hflow
    exact ⟨mem_of_flow? hflow, id_of_flow? hflow⟩
  · rintro ⟨hmem, rfl⟩
    obtain ⟨found, hfound⟩ := Option.isSome_iff_exists.mp (flow?_isSome_iff.mpr ⟨flow, hmem, rfl⟩)
    have hsame : found = flow :=
      List.inj_on_of_nodup_map h (mem_of_flow? hfound) hmem (id_of_flow? hfound)
    rw [hfound, hsame]

/-- The order of flows of distinct ids does not matter. -/
theorem sameFlows_of_perm {first second : Catalog} (h : (first.map (·.id)).Nodup)
    (hperm : first.Perm second) : first.SameFlows second := by
  have hsecond : (second.map (·.id)).Nodup := (hperm.map _).nodup_iff.mp h
  intro id
  refine Option.ext fun flow => ?_
  rw [flow?_eq_some_iff h, flow?_eq_some_iff hsecond, hperm.mem_iff]

section

variable {first second : Catalog} (h : first.SameFlows second)
include h

theorem afterInterrupt_congr (ended : Frame) (stack : Stack) :
    Pattern.afterInterrupt ended stack first = Pattern.afterInterrupt ended stack second := by
  have hnode : stack.userNode? first = stack.userNode? second := by
    unfold Stack.userNode?
    simp only [h _]
  have hflow : stack.userFlow? first = stack.userFlow? second := by
    unfold Stack.userFlow?
    simp only [h _]
  unfold Pattern.afterInterrupt
  rw [hnode, hflow]

theorem afterLast_congr (ended : Frame) (stack : Stack) :
    Pattern.afterLast ended stack first = Pattern.afterLast ended stack second := by
  unfold Pattern.afterLast
  rw [h]

variable (actions : List String) (services : Services)

/-- Of the nodes only the end of a flow looks at the catalog. -/
theorem run_congr (flow : Flow) (node : Node) (stack : Stack) (conversation : Conversation) :
    Interpreter.run ⟨first, actions, services⟩ flow node stack conversation =
      Interpreter.run ⟨second, actions, services⟩ flow node stack conversation := by
  cases node with
  | finish =>
    cases stack with
    | nil => rfl
    | cons ended below =>
      simp only [Interpreter.run, Interpreter.runEnd, afterInterrupt_congr h, afterLast_congr h]
  | step step => rfl
  | start id => rfl
  | resume id => rfl

theorem interpret_congr (flow : Flow) (current : Node) (progress : Turn.Progress) :
    Turn.interpret ⟨first, actions, services⟩ flow current progress =
      Turn.interpret ⟨second, actions, services⟩ flow current progress := by
  unfold Turn.interpret
  simp only [run_congr h actions services]

theorem iterate_congr (progress : Turn.Progress) :
    Turn.iterate ⟨first, actions, services⟩ progress =
      Turn.iterate ⟨second, actions, services⟩ progress := by
  unfold Turn.iterate
  simp only [h _, interpret_congr h actions services]

theorem loop_congr (ceiling rounds : Nat) (progress : Turn.Progress) :
    Turn.loop ⟨first, actions, services⟩ ceiling rounds progress =
      Turn.loop ⟨second, actions, services⟩ ceiling rounds progress := by
  induction rounds generalizing progress with
  | zero => rfl
  | succ rounds ih =>
    unfold Turn.loop
    simp only [iterate_congr h actions services, ih]

theorem selectAction_congr (ceiling : Nat) (stack : Stack) (conversation : Conversation) :
    Turn.selectAction ⟨first, actions, services⟩ ceiling stack conversation =
      Turn.selectAction ⟨second, actions, services⟩ ceiling stack conversation := by
  unfold Turn.selectAction
  rw [loop_congr h actions services]

omit actions in
/-- A turn over the same flows asks the same questions and comes to the same. -/
theorem advance_congr (conversation : Conversation) (domain : Domain) (ceiling : Nat) :
    Turn.advance conversation domain first services ceiling =
      Turn.advance conversation domain second services ceiling := by
  unfold Turn.advance
  simp only [selectAction_congr h]

end

/-- A merged catalog is looked up in its parts: the flow of an id is the first catalog's, else the
second's. Merging is associative, the built-in flows are added once, and merging catalogs without
defects gives one without defects, also with the built-in flows. Turns over catalogs that look up the
same flows are the same, as are turns over the same flows of distinct ids in another order. -/
theorem merged_by_lookup :
    (∀ (first second : Catalog) (id : String),
      (first.merge second).flow? id = (first.flow? id).or (second.flow? id)) ∧
    (∀ first second third : Catalog,
      (first.merge second).merge third = first.merge (second.merge third)) ∧
    (∀ catalog : Catalog, Pattern.addTo (Pattern.addTo catalog) = Pattern.addTo catalog) ∧
    (∀ first second : Catalog, first.defects = [] → second.defects = [] →
      (first.merge second).defects = []) ∧
    (∀ catalog : Catalog, catalog.defects = [] → (Pattern.addTo catalog).defects = []) ∧
    (∀ first second : Catalog, (∀ id, first.flow? id = second.flow? id) →
      ∀ conversation domain services ceiling,
        Turn.advance conversation domain first services ceiling =
          Turn.advance conversation domain second services ceiling) ∧
    (∀ first second : Catalog, (first.map (·.id)).Nodup → first.Perm second →
      ∀ conversation domain services ceiling,
        Turn.advance conversation domain first services ceiling =
          Turn.advance conversation domain second services ceiling) := by
  refine ⟨flow?_merge, merge_assoc, Pattern.addTo_addTo, ?_, ?_, ?_, ?_⟩
  · intro first second hfirst hsecond
    rw [defects_eq_nil_iff] at hfirst hsecond ⊢
    exact sound_merge hfirst hsecond
  · intro catalog hcatalog
    rw [defects_eq_nil_iff] at hcatalog ⊢
    exact Pattern.sound_addTo hcatalog
  · intro first second hsame conversation domain services ceiling
    exact advance_congr hsame services conversation domain ceiling
  · intro first second hdistinct hperm conversation domain services ceiling
    exact advance_congr (sameFlows_of_perm hdistinct hperm) services conversation domain ceiling

/-- Another way to pay, and another flow that marks the end of the last one, linked to it. -/
def invoiced : Catalog :=
  [.ofDeclared "pay" (some "invoice") [⟨"done", .link Pattern.completedId, []⟩],
    .ofDeclared Pattern.completedId none [⟨"bye", .action (some "utter_bye"), []⟩]]

/-- With the order, which it overrides in part, it is without defects. Turns over the order are the
same with its flows listed twice or backwards. -/
theorem invoiced_merged_by_lookup :
    (invoiced.defects = [] ∧ order.defects = [] ∧ (invoiced.merge order).defects = []) ∧
    (Pattern.addTo invoiced).defects = [] ∧
    ((∀ id, order.flow? id = flow? (order ++ order) id) ∧
      ∀ conversation domain services ceiling,
        Turn.advance conversation domain order services ceiling =
          Turn.advance conversation domain (order ++ order) services ceiling) ∧
    ((order.map (·.id)).Nodup ∧ order.Perm order.reverse ∧
      ∀ conversation domain services ceiling,
        Turn.advance conversation domain order services ceiling =
          Turn.advance conversation domain order.reverse services ceiling) := by
  obtain ⟨-, -, -, hmerge, hbuiltIn, hlookups, horder⟩ := merged_by_lookup
  have hinvoiced : invoiced.defects = [] := by decide
  have hdefects : order.defects = [] := by decide
  have hdistinct : (order.map (·.id)).Nodup := by decide
  have hperm : order.Perm order.reverse := (List.reverse_perm order).symm
  have htwice : ∀ id, order.flow? id = flow? (order ++ order) id := fun id => by
    rw [flow?_append, Option.or_self]
  exact ⟨⟨hinvoiced, hdefects, hmerge _ _ hinvoiced hdefects⟩, hbuiltIn _ hinvoiced,
    ⟨htwice, hlookups _ _ htwice⟩, hdistinct, hperm, horder _ _ hdistinct hperm⟩

end Catalog

end DialogueFlow
