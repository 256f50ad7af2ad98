/-
  What can keep a turn from ending: links of a flow that lead back to their step, flows that link to
  each other in a circle, and steps whose links may all fail. `acyclic_addTo`: a loaded catalog with
  none of these stays so when the built-in patterns are added. The flow that asks for a slot is a
  circle, but it passes through a step that always stops the turn.
-/
import DialogueFlow.Proofs.Catalog.Loading
import DialogueFlow.Proofs.Catalog.Merge
import DialogueFlow.Proofs.Turn.Selection
import Mathlib.Logic.Relation

namespace DialogueFlow

open Relation

/-- A link leads from the one step to the other. -/
def Flow.Leads (flow : Flow) (source target : String) : Prop :=
  ∃ step ∈ flow.declared, step.id = source ∧ ∃ link ∈ step.next, link.target = target

/-- The links of the flow lead from some step back to it. -/
def Flow.HasCycle (flow : Flow) : Prop := ∃ id, TransGen flow.Leads id id

/-- A link step leads from the one flow to the other. -/
def Catalog.LinksTo (catalog : Catalog) (source target : String) : Prop :=
  ∃ flow, catalog.flow? source = some flow ∧ ∃ step ∈ flow.declared, step.task = .link target

/-- Link steps lead from some flow back to it. -/
def Catalog.HasLinkCycle (catalog : Catalog) : Prop := ∃ id, TransGen catalog.LinksTo id id

/-- The step has links, but it may be that none of them is taken. -/
structure Step.IsOpen (step : Step) : Prop where
  linked : step.next ≠ []
  conditional : ∀ target, step.next ≠ [.always target]
  unmatched : ∀ target, .otherwise target ∉ step.next

/-- What can keep a turn over the catalog from ending. -/
def Catalog.MaySpin (catalog : Catalog) : Prop :=
  (∃ flow ∈ catalog, flow.HasCycle) ∨ catalog.HasLinkCycle ∨
    ∃ flow ∈ catalog, ∃ step ∈ flow.declared, step.IsOpen

/-- The turn may go on after the step. A step that predicts a built-in action always stops it. -/
def Step.passes (step : Step) : Bool :=
  match step.task with
  | .action (some name) => name ∉ Domain.builtIn
  | _ => true

/-- A link leads from the one step to the other, and the turn may go on after that. -/
def Flow.Proceeds (flow : Flow) (source target : String) : Prop :=
  flow.Leads source target ∧ ∃ step ∈ flow.declared, step.id = target ∧ step.passes = true

/-- A catalog with the built-in patterns in which nothing keeps a turn from ending. -/
structure Catalog.Acyclic (catalog : Catalog) : Prop where
  patterns : ∀ flow ∈ Pattern.flows, catalog.flow? flow.id = some flow
  flows : ∀ flow ∈ catalog, ∀ id, ¬ TransGen flow.Proceeds id id
  links : ∀ id, ¬ TransGen catalog.LinksTo id id
  matched : ∀ flow ∈ catalog, ∀ step ∈ flow.declared, ¬ step.IsOpen
  fallsThrough : ∀ flow ∈ catalog, flow.FallsThrough

/-- Steps that go up lead nowhere back. -/
theorem not_transGen_self {edge : String → String → Prop} (place : String → Nat)
    (h : ∀ source target, edge source target → place source < place target) (id : String) :
    ¬ TransGen edge id id := by
  have hplace : ∀ target, TransGen edge id target → place id < place target := by
    intro target hpath
    induction hpath with
    | single hedge => exact h _ _ hedge
    | tail _ hedge ih => exact Nat.lt_trans ih (h _ _ hedge)
  exact fun hcycle => Nat.lt_irrefl _ (hplace id hcycle)

theorem Flow.not_hasCycle {flow : Flow} (place : String → Nat)
    (h : ∀ step ∈ flow.declared, ∀ link ∈ step.next, place step.id < place link.target) :
    ¬ flow.HasCycle := by
  rintro ⟨id, hpath⟩
  refine not_transGen_self place (fun source target hleads => ?_) id hpath
  obtain ⟨step, hstep, rfl, link, hlink, rfl⟩ := hleads
  exact h step hstep link hlink

theorem Catalog.not_hasLinkCycle {catalog : Catalog} (place : String → Nat)
    (h : ∀ flow ∈ catalog, ∀ step ∈ flow.declared, ∀ id, step.task = .link id →
      place flow.id < place id) : ¬ catalog.HasLinkCycle := by
  rintro ⟨id, hpath⟩
  refine not_transGen_self place (fun source target hlink => ?_) id hpath
  obtain ⟨flow, hflow, step, hstep, htask⟩ := hlink
  rw [← id_of_flow? hflow]
  exact h flow (mem_of_flow? hflow) step hstep target htask

theorem Step.isOpen_iff (step : Step) : step.IsOpen ↔ step.next ≠ [] ∧
    (∀ link ∈ step.next, step.next ≠ [.always link.target]) ∧
      Selection.fallback? step.next = none := by
  rw [Selection.fallback?_eq_none_iff]
  constructor
  · intro h
    exact ⟨h.linked, fun link _ => h.conditional link.target, h.unmatched⟩
  · rintro ⟨hlinked, hconditional, hunmatched⟩
    refine ⟨hlinked, fun target hsingle => ?_, hunmatched⟩
    exact hconditional (.always target) (by rw [hsingle]; exact List.mem_singleton_self _) hsingle

instance (step : Step) : Decidable step.IsOpen := decidable_of_iff _ step.isOpen_iff.symm

/-- A link of a node leads away from its id, unless the node is the start. -/
theorem Flow.leads_next {flow : Flow} {current : Node} (hcurrent : flow.HasCurrent current)
    {link : Link} (hlink : link ∈ current.next) :
    current.id = startId ∨ flow.Leads current.id link.target := by
  rcases hcurrent with rfl | ⟨step, hstep, rfl⟩
  · exact Or.inl rfl
  · exact Or.inr ⟨step, hstep, rfl, link, hlink, rfl⟩

/-- Nothing comes next only after a step that is open. -/
theorem Selection.isOpen_of_nextId_eq_none {services : Services} {flow : Flow} (hflow : flow.Sound)
    (hfalls : flow.FallsThrough) {current : Node} (hcurrent : flow.HasCurrent current)
    {context : Table Json} {conversation : Conversation} {asked : List Question}
    (h : (nextId services current context conversation asked).1 = none) :
    ∃ step ∈ flow.declared, current = .step step ∧ step.IsOpen := by
  obtain ⟨hconditional, hunmatched, hunlinked⟩ := nextId_eq_none h
  rcases hcurrent with rfl | ⟨step, hstep, rfl⟩
  · exact absurd rfl (hconditional flow.firstId)
  · refine ⟨step, hstep, rfl, fun hempty => ?_, hconditional, hunmatched⟩
    -- a step without links is a link step, and that leads to the end
    obtain ⟨id, htask⟩ := hfalls step hstep hempty
    have hlink : (Node.step step).isLinkStep = true := by
      obtain ⟨stepId, task, next⟩ := step
      obtain rfl : task = .link id := htask
      rfl
    have hnone := hunlinked hempty
    rw [withoutLinks, if_pos ⟨ne_endId (hflow.free step hstep), hlink⟩] at hnone
    cases hnone

/-! ## The built-in patterns -/

namespace Pattern

/-- The order in which a turn can go through the steps of the built-in flows. -/
def place (id : String) : Nat := if id = "start" then 1 else if id = "ask_collect" then 2 else 0

theorem place_lt {flow : Flow} (hflow : flow ∈ flows) {source target : String}
    (h : flow.Proceeds source target) : place source < place target := by
  have hplaces : ∀ flow ∈ flows, ∀ step ∈ flow.declared, ∀ link ∈ step.next,
      ∀ reached ∈ flow.declared, reached.id = link.target → reached.passes = true →
        place step.id < place link.target := by decide
  obtain ⟨⟨step, hstep, rfl, link, hlink, rfl⟩, reached, hreached, hid, hpasses⟩ := h
  exact hplaces flow hflow step hstep link hlink reached hreached hid hpasses

theorem not_isOpen : ∀ flow ∈ flows, ∀ step ∈ flow.declared, ¬ step.IsOpen := by decide

theorem fallsThrough_flows {flow : Flow} (hflow : flow ∈ flows) : flow.FallsThrough := by
  simp only [flows, List.mem_cons, List.not_mem_nil, or_false] at hflow
  rcases hflow with rfl | rfl | rfl <;> exact Flow.fallsThrough_ofDeclared _ _ _

/-- The built-in flows link to no flow. -/
theorem not_link {flow : Flow} (hflow : flow ∈ flows) {step : Step} (hstep : step ∈ flow.declared)
    (id : String) : step.task ≠ .link id := by
  have hkinds : ∀ flow ∈ flows, ∀ step ∈ flow.declared, step.task.kindName ≠ "link" := by decide
  intro htask
  exact hkinds flow hflow step hstep (by rw [htask]; rfl)

variable {declared : Catalog}

theorem linksTo_addTo {source target : String} (h : (addTo declared).LinksTo source target) :
    declared.LinksTo source target := by
  obtain ⟨flow, hflow, step, hstep, htask⟩ := h
  rw [flow?_addTo] at hflow
  rcases Option.or_eq_some_iff.mp hflow with hdeclared | ⟨-, hbuiltIn⟩
  · exact ⟨flow, hdeclared, step, hstep, htask⟩
  · exact absurd htask (not_link (Catalog.mem_of_flow? hbuiltIn) hstep target)

theorem fallsThrough_addTo (hfalls : ∀ flow ∈ declared, flow.FallsThrough) :
    ∀ flow ∈ addTo declared, flow.FallsThrough := by
  intro flow hflow
  rcases Catalog.mem_merge hflow with hdeclared | hbuiltIn
  · exact hfalls flow hdeclared
  · exact fallsThrough_flows hbuiltIn

/-- A catalog over which no turn spins stays so when the built-in flows are added. -/
theorem acyclic_addTo (hpatterns : ∀ flow ∈ flows, declared.flow? flow.id = none)
    (hspin : ¬ declared.MaySpin) (hfalls : ∀ flow ∈ declared, flow.FallsThrough) :
    (addTo declared).Acyclic where
  patterns := fun flow hflow => flow?_addTo_of_mem hflow (hpatterns flow hflow)
  flows := by
    intro flow hflow id hpath
    rcases Catalog.mem_merge hflow with h | h
    · exact hspin (Or.inl ⟨flow, h, id, TransGen.mono (fun _ _ hedge => hedge.1) id id hpath⟩)
    · exact not_transGen_self place (fun _ _ => place_lt h) id hpath
  links := fun id hpath =>
    hspin (Or.inr (Or.inl ⟨id, TransGen.mono (fun _ _ => linksTo_addTo) id id hpath⟩))
  matched := by
    intro flow hflow step hstep hopen
    rcases Catalog.mem_merge hflow with h | h
    · exact hspin (Or.inr (Or.inr ⟨flow, h, step, hstep, hopen⟩))
    · exact not_isOpen flow h step hstep hopen
  fallsThrough := fallsThrough_addTo hfalls

end Pattern

/-- A loaded catalog over which no turn spins, with the built-in patterns. -/
theorem Catalog.acyclic_of_load {text : String} {declared : Catalog}
    (hload : Catalog.load text = .ok declared)
    (hpatterns : ∀ flow ∈ Pattern.flows, declared.flow? flow.id = none)
    (hspin : ¬ declared.MaySpin) : (Pattern.addTo declared).Acyclic :=
  Pattern.acyclic_addTo hpatterns hspin (fallsThrough_of_load hload)

end DialogueFlow
