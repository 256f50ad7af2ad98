/-
  What a dialogue stack may still cost. A frame is weighed by the steps that its flow may still run,
  each with what the frame that it may push can cost in turn; the flows that link steps push are
  weighed along the links, which end in an acyclic catalog. `cost_lt`: a cursor that moves on pays
  for itself and for what its step pushes. `weight_le_turnBound`: the weight of a stack is bounded
  by its catalog and the ids of its frames.
-/
import DialogueFlow.Proofs.Catalog.Cycles
import Mathlib.Algebra.Order.BigOperators.Group.List
import Mathlib.Algebra.Order.Group.Nat
import Mathlib.Algebra.GroupWithZero.Nat

namespace DialogueFlow

open Relation

/-! ## Sums over the items with a property -/

open Classical in
/-- The sum of the weights of those items that have the property. -/
noncomputable def total {α : Type} (items : List α) (P : α → Prop) (weight : α → Nat) : Nat :=
  (items.map fun item => if P item then weight item else 0).sum

section Total

variable {α : Type} {items : List α} {P Q : α → Prop} (weight : α → Nat)

theorem total_cons (item : α) (rest : List α) (P : α → Prop) [Decidable (P item)] :
    total (item :: rest) P weight = (if P item then weight item else 0) + total rest P weight := by
  unfold total
  rw [List.map_cons, List.sum_cons]
  congr

theorem total_mono (h : ∀ item ∈ items, P item → Q item) :
    total items P weight ≤ total items Q weight := by
  classical
  induction items with
  | nil => exact Nat.le_refl _
  | cons item rest ih =>
    rw [List.forall_mem_cons] at h
    have hrest := ih h.2
    rw [total_cons, total_cons]
    by_cases hP : P item
    · rw [if_pos hP, if_pos (h.1 hP)]
      omega
    · rw [if_neg hP]
      omega

/-- A larger property weighs more by the items that it has more. -/
theorem total_add_le (h : ∀ item ∈ items, P item → Q item) {item : α} (hitem : item ∈ items)
    (hP : ¬ P item) (hQ : Q item) :
    total items P weight + weight item ≤ total items Q weight := by
  classical
  induction items with
  | nil => cases hitem
  | cons head rest ih =>
    rw [List.forall_mem_cons] at h
    rw [total_cons, total_cons]
    rcases List.mem_cons.mp hitem with rfl | hrest
    · have hmono : total rest P weight ≤ total rest Q weight := total_mono weight h.2
      rw [if_neg hP, if_pos hQ]
      omega
    · have hmore := ih h.2 hrest
      by_cases hPhead : P head
      · rw [if_pos hPhead, if_pos (h.1 hPhead)]
        omega
      · rw [if_neg hPhead]
        omega

theorem total_one_le (items : List α) (P : α → Prop) :
    total items P (fun _ => 1) ≤ items.length := by
  classical
  induction items with
  | nil => exact Nat.le_refl _
  | cons item rest ih =>
    rw [total_cons, List.length_cons]
    split <;> omega

end Total

/-! ## The cost of flows -/

/-- What the frame that a step pushes may cost, where `cost` says what flows cost. A flow of a user
may be followed by a pattern when it ends. -/
def Step.charge (cost : String → Nat) (step : Step) : Nat :=
  match step.task with
  | .link id => cost id + 2
  | .collect .. => 3
  | _ => 0

/-- What a flow may cost from its start, as far as links are followed to this depth. -/
def Catalog.activation (catalog : Catalog) : (depth : Nat) → (id : String) → Nat
  | 0, _ => 0
  | depth + 1, id =>
    match catalog.flow? id with
    | none => 0
    | some flow => 1 + (flow.declared.map fun step =>
        if step.passes then 1 + step.charge (catalog.activation depth) else 0).sum

/-- The turn may yet go on after this step, from this cursor. -/
def Flow.Ahead (flow : Flow) (cursor : String) (step : Step) : Prop :=
  step.passes = true ∧ (cursor = startId ∨ TransGen flow.Proceeds cursor step.id)

/-- What a flow may still cost from a cursor, where `cost` says what flows cost. -/
noncomputable def Flow.cost (flow : Flow) (cost : String → Nat) (cursor : String) : Nat :=
  1 + total flow.declared (flow.Ahead cursor) fun step => 1 + step.charge cost

/-- How many flows can be reached from a flow by links. -/
noncomputable def Catalog.rank (catalog : Catalog) (id : String) : Nat :=
  total catalog (fun flow => TransGen catalog.LinksTo id flow.id) fun _ => 1

/-- What a frame may still cost, with the pattern that may follow it. -/
noncomputable def Frame.weight (catalog : Catalog) (frame : Frame) : Nat :=
  match catalog.flow? frame.flowId with
  | none => 0
  | some flow => flow.cost (catalog.activation (catalog.rank flow.id)) frame.stepId +
      if frame.isUserFlow then 2 else 0

/-- What a stack may still cost. -/
noncomputable def Stack.weight (catalog : Catalog) (stack : Stack) : Nat :=
  (stack.map (Frame.weight catalog)).sum

/-- How many iterations a turn over a catalog may take from a stack. -/
def Stack.turnBound (catalog : Catalog) (stack : Stack) : Nat :=
  (stack.map fun frame => catalog.activation (catalog.length + 1) frame.flowId + 2).sum

theorem Step.charge_mono {cost cost' : String → Nat} (h : ∀ id, cost id ≤ cost' id) (step : Step) :
    step.charge cost ≤ step.charge cost' := by
  unfold charge
  split
  · exact Nat.add_le_add_right (h _) 2
  · exact Nat.le_refl _
  · exact Nat.le_refl _

namespace Flow

variable {flow : Flow} {cost : String → Nat}

/-- A cursor that moves on along a link pays for the step and for what the step pushes. -/
theorem cost_lt (cost : String → Nat) (hcycle : ∀ id, ¬ TransGen flow.Proceeds id id) {step : Step}
    (hstep : step ∈ flow.declared) (hstart : step.id ≠ startId) (hpasses : step.passes = true)
    {cursor : String} (hfrom : cursor = startId ∨ flow.Leads cursor step.id) :
    flow.cost cost step.id + (1 + step.charge cost) ≤ flow.cost cost cursor := by
  have hreached : cursor = startId ∨ flow.Proceeds cursor step.id :=
    hfrom.imp_right fun hleads => ⟨hleads, step, hstep, rfl, hpasses⟩
  have hnot : ¬ flow.Ahead step.id step := by
    rintro ⟨-, hself | hpath⟩
    · exact hstart hself
    · exact hcycle step.id hpath
  have hahead : ∀ other ∈ flow.declared, flow.Ahead step.id other → flow.Ahead cursor other := by
    rintro other - ⟨hother, hself | hpath⟩
    · exact absurd hself hstart
    · exact ⟨hother, hreached.imp_right fun hedge => TransGen.head hedge hpath⟩
  have hmore := total_add_le (fun step => 1 + step.charge cost) hahead hstep hnot
    ⟨hpasses, hreached.imp_right TransGen.single⟩
  unfold Flow.cost
  omega

theorem cost_le_start (flow : Flow) (cost : String → Nat) (cursor : String) :
    flow.cost cost cursor ≤ flow.cost cost startId := by
  have hmono : total flow.declared (flow.Ahead cursor) (fun step => 1 + step.charge cost) ≤
      total flow.declared (flow.Ahead startId) (fun step => 1 + step.charge cost) :=
    total_mono _ fun _ _ h => ⟨h.1, Or.inl rfl⟩
  unfold Flow.cost
  omega

theorem cost_pos (flow : Flow) (cost : String → Nat) (cursor : String) :
    1 ≤ flow.cost cost cursor := by
  unfold Flow.cost
  omega

theorem cost_start (flow : Flow) (cost : String → Nat) :
    flow.cost cost startId = 1 + (flow.declared.map fun step =>
      if step.passes then 1 + step.charge cost else 0).sum := by
  unfold Flow.cost
  congr 1
  generalize flow.declared = steps
  induction steps with
  | nil => rfl
  | cons step rest ih =>
    classical
    rw [total_cons, ih, List.map_cons, List.sum_cons]
    simp [Flow.Ahead]

end Flow

namespace Catalog

variable {catalog : Catalog}

theorem activation_succ {id : String} {flow : Flow} (h : catalog.flow? id = some flow)
    (depth : Nat) :
    catalog.activation (depth + 1) id = flow.cost (catalog.activation depth) startId := by
  rw [activation, h, Flow.cost_start]

/-- Following links deeper costs no less. -/
theorem activation_mono (catalog : Catalog) {depth deeper : Nat} (h : depth ≤ deeper)
    (id : String) :
    catalog.activation depth id ≤ catalog.activation deeper id := by
  induction depth generalizing deeper id with
  | zero => exact Nat.zero_le _
  | succ depth ih =>
    obtain ⟨deeper, rfl⟩ : ∃ n, deeper = n + 1 := ⟨deeper - 1, by omega⟩
    rw [activation, activation]
    split
    · exact Nat.le_refl _
    · refine Nat.add_le_add_left (List.sum_le_sum fun step _ => ?_) 1
      have hcharge := Step.charge_mono (ih (Nat.le_of_succ_le_succ h)) step
      split
      · exact Nat.add_le_add_left hcharge 1
      · exact Nat.le_refl _

theorem rank_le_length (catalog : Catalog) (id : String) : catalog.rank id ≤ catalog.length :=
  total_one_le _ _

/-- A flow reaches more flows than one it links to. -/
theorem rank_lt (hcycle : ∀ id, ¬ TransGen catalog.LinksTo id id) {source target : String}
    (hlink : catalog.LinksTo source target) {flow : Flow}
    (hflow : catalog.flow? target = some flow) :
    catalog.rank target < catalog.rank source := by
  obtain rfl := id_of_flow? hflow
  exact total_add_le (fun _ => 1) (fun _ _ hpath => TransGen.head hlink hpath)
    (mem_of_flow? hflow) (hcycle flow.id) (TransGen.single hlink)

end Catalog

/-! ## The weight of stacks -/

section Weight

variable {catalog : Catalog}

theorem Frame.weight_eq {frame : Frame} {flow : Flow} (h : catalog.flow? frame.flowId = some flow) :
    frame.weight catalog = flow.cost (catalog.activation (catalog.rank flow.id)) frame.stepId +
      if frame.isUserFlow then 2 else 0 := by
  rw [weight, h]

/-- The frame that a link step pushes weighs no more than the step is charged for. -/
theorem Frame.weight_link (hcycle : ∀ id, ¬ TransGen catalog.LinksTo id id) {source target : String}
    (hlink : catalog.LinksTo source target) :
    (Frame.atStart target .link).weight catalog ≤
      catalog.activation (catalog.rank source) target + 2 := by
  unfold weight
  split
  · exact Nat.zero_le _
  · rename_i flow hflow
    have hid : flow.id = target := Catalog.id_of_flow? hflow
    have hrank := Catalog.rank_lt hcycle hlink hflow
    have hactivation := catalog.activation_mono hrank target
    change catalog.flow? target = some flow at hflow
    rw [Nat.succ_eq_add_one, Catalog.activation_succ hflow] at hactivation
    rw [hid]
    exact Nat.add_le_add_right hactivation 2

/-- A frame at the start of a pattern, whatever its context. -/
theorem Frame.weight_pattern (hcatalog : catalog.Acyclic) {flow : Flow}
    (hflow : flow ∈ Pattern.flows) (context : Option (Table Json)) :
    Frame.weight catalog { Frame.atStart flow.id .pattern with context } =
      1 + (flow.declared.map fun step => if step.passes then
        1 + step.charge (catalog.activation (catalog.rank flow.id)) else 0).sum := by
  rw [weight_eq (hcatalog.patterns flow hflow), ← Flow.cost_start]
  rfl

theorem weight_collectFrame (hcatalog : catalog.Acyclic) (slot utter : String)
    (rejections : List Rejection) :
    (Pattern.collectFrame slot utter rejections).weight catalog = 3 :=
  Frame.weight_pattern hcatalog Pattern.collectFlow_mem _

theorem weight_continueFrame (hcatalog : catalog.Acyclic) (name : String) :
    (Pattern.continueFrame name).weight catalog = 1 :=
  Frame.weight_pattern hcatalog Pattern.continueFlow_mem _

theorem weight_completedFrame (hcatalog : catalog.Acyclic) (name : Option String) :
    (Pattern.completedFrame name).weight catalog = 1 :=
  Frame.weight_pattern hcatalog Pattern.completedFlow_mem _

namespace Stack

theorem weight_cons (catalog : Catalog) (frame : Frame) (below : Stack) :
    weight catalog (frame :: below) = frame.weight catalog + weight catalog below := by
  unfold weight
  rw [List.map_cons, List.sum_cons]

theorem weight_le_turnBound (catalog : Catalog) (stack : Stack) :
    stack.weight catalog ≤ stack.turnBound catalog := by
  refine List.sum_le_sum fun frame _ => ?_
  unfold Frame.weight
  split
  · exact Nat.zero_le _
  · rename_i flow hflow
    have hstart := flow.cost_le_start (catalog.activation (catalog.rank flow.id)) frame.stepId
    have hrank : catalog.rank flow.id + 1 ≤ catalog.length + 1 :=
      Nat.succ_le_succ (catalog.rank_le_length flow.id)
    have hactivation := catalog.activation_mono hrank frame.flowId
    rw [Catalog.activation_succ hflow] at hactivation
    split <;> omega

end Stack

end Weight

end DialogueFlow
