/-
  Sound flows and catalogs: what the absence of defects guarantees a turn. Main statements:
  `defects_eq_nil_iff` (a catalog has no defects exactly when it is sound) and `node?_next` (in a
  sound flow the target of a link of any node at which a cursor may stand is a declared step or
  the end, never a start node and never a resuming node).
-/
import DialogueFlow.Flow.Defect
import Mathlib.Data.List.Nodup
import Mathlib.Tactic.Common

namespace DialogueFlow

/-- A flow whose ids are free and distinct, and whose links all lead somewhere. -/
structure Flow.Sound (flow : Flow) : Prop where
  free : ∀ step ∈ flow.declared, isReservedId step.id = false
  distinct : (flow.declared.map (·.id)).Nodup
  reaching : ∀ step ∈ flow.declared, ∀ link ∈ step.next, Defect.reaches flow link.target

/-- Every link step of the flow names a flow of the catalog. -/
def Flow.LinksInto (flow : Flow) (catalog : Catalog) : Prop :=
  ∀ step ∈ flow.declared, ∀ id, step.task = .link id → (catalog.flow? id).isSome

/-- A catalog of distinct sound flows that link to flows of the catalog only. -/
structure Catalog.Sound (catalog : Catalog) : Prop where
  distinct : (catalog.map (·.id)).Nodup
  flows : ∀ flow ∈ catalog, flow.Sound
  linked : ∀ flow ∈ catalog, flow.LinksInto catalog

/-! ## The checks decide soundness -/

namespace Defect

/-- Ids that are distinct and not seen before: what one more id adds to the check. -/
theorem fresh_cons_iff (seen : List String) (id : String) (rest : List String) :
    (id :: rest).Nodup ∧ (∀ other ∈ id :: rest, other ∉ seen) ↔
      id ∉ seen ∧ rest.Nodup ∧ ∀ other ∈ rest, other ∉ id :: seen := by
  rw [List.nodup_cons, List.forall_mem_cons]
  constructor
  · rintro ⟨⟨hid, hrest⟩, hnew, hnews⟩
    refine ⟨hnew, hrest, fun other hother => ?_⟩
    rw [List.mem_cons, not_or]
    exact ⟨fun h => hid (h ▸ hother), hnews other hother⟩
  · rintro ⟨hnew, hrest, hnews⟩
    exact ⟨⟨fun h => hnews id h List.mem_cons_self, hrest⟩, hnew,
      fun other hother h => hnews other hother (List.mem_cons_of_mem _ h)⟩

theorem ofIds_eq_nil_iff (flow : String) (seen : List String) (steps : List Step) :
    ofIds flow seen steps = [] ↔ (∀ step ∈ steps, isReservedId step.id = false) ∧
      (steps.map (·.id)).Nodup ∧ ∀ id ∈ steps.map (·.id), id ∉ seen := by
  induction steps generalizing seen with
  | nil => simp [ofIds]
  | cons step rest ih =>
    have hreserved :
        (if isReservedId step.id then [Defect.reservedStep flow step.id] else []) = [] ↔
          isReservedId step.id = false := by
      cases isReservedId step.id <;> simp
    have hrepeated : (if step.id ∈ seen then [Defect.repeatedStep flow step.id] else []) = [] ↔
        step.id ∉ seen := by
      by_cases h : step.id ∈ seen <;> simp [h]
    rw [ofIds, List.append_eq_nil_iff, List.append_eq_nil_iff, hreserved, hrepeated, ih,
      List.map_cons, fresh_cons_iff, List.forall_mem_cons]
    tauto

theorem ofLinks_eq_nil_iff (catalog : Catalog) (flow : Flow) (step : Step) :
    ofLinks catalog flow step = [] ↔ (∀ link ∈ step.next, reaches flow link.target) ∧
      ∀ id, step.task = .link id → (catalog.flow? id).isSome := by
  rw [ofLinks, List.append_eq_nil_iff]
  refine and_congr ?_ ?_
  · simp [List.filter_eq_nil_iff]
  · cases htask : step.task with
    | link linked => by_cases h : (catalog.flow? linked).isSome <;> simp [h]
    | _ => simp

theorem ofFlow_eq_nil_iff (catalog : Catalog) (flow : Flow) :
    ofFlow catalog flow = [] ↔ flow.Sound ∧ flow.LinksInto catalog := by
  rw [ofFlow, List.append_eq_nil_iff, ofIds_eq_nil_iff, List.flatMap_eq_nil_iff]
  simp only [ofLinks_eq_nil_iff]
  constructor
  · rintro ⟨⟨hfree, hnodup, -⟩, hlinks⟩
    exact ⟨⟨hfree, hnodup, fun step hstep => (hlinks step hstep).1⟩,
      fun step hstep => (hlinks step hstep).2⟩
  · rintro ⟨hsound, hinto⟩
    exact ⟨⟨hsound.free, hsound.distinct, by simp⟩,
      fun step hstep => ⟨hsound.reaching step hstep, hinto step hstep⟩⟩

theorem ofFlows_eq_nil_iff (catalog : Catalog) (seen : List String) (flows : List Flow) :
    ofFlows catalog seen flows = [] ↔
      ((flows.map (·.id)).Nodup ∧ ∀ id ∈ flows.map (·.id), id ∉ seen) ∧
        ∀ flow ∈ flows, flow.Sound ∧ flow.LinksInto catalog := by
  induction flows generalizing seen with
  | nil => simp [ofFlows]
  | cons flow rest ih =>
    have hrepeated : (if flow.id ∈ seen then [Defect.repeatedFlow flow.id] else []) = [] ↔
        flow.id ∉ seen := by
      by_cases h : flow.id ∈ seen <;> simp [h]
    rw [ofFlows, List.append_eq_nil_iff, List.append_eq_nil_iff, hrepeated, ofFlow_eq_nil_iff, ih,
      List.map_cons, fresh_cons_iff, List.forall_mem_cons]
    tauto

end Defect

/-- A catalog has no defects exactly when it is sound. -/
theorem Catalog.defects_eq_nil_iff (catalog : Catalog) : catalog.defects = [] ↔ catalog.Sound := by
  rw [Catalog.defects, Defect.ofFlows_eq_nil_iff]
  constructor
  · rintro ⟨⟨hnodup, -⟩, hflows⟩
    exact ⟨hnodup, fun flow hflow => (hflows flow hflow).1, fun flow hflow => (hflows flow hflow).2⟩
  · intro h
    exact ⟨⟨h.distinct, by simp⟩, fun flow hflow => ⟨h.flows flow hflow, h.linked flow hflow⟩⟩

/-! ## Looking up nodes -/

theorem resumeTarget?_eq_none {id : String} (h : isReservedId id = false) :
    resumeTarget? id = none := by
  simp only [isReservedId, Bool.or_eq_false_iff] at h
  simpa using h.2

theorem ne_startId {id : String} (h : isReservedId id = false) : id ≠ startId := by
  rintro rfl
  exact absurd h (by decide)

theorem ne_endId {id : String} (h : isReservedId id = false) : id ≠ endId := by
  rintro rfl
  exact absurd h (by decide)

namespace Flow

variable {flow : Flow}

/-- An id that resumes nothing names the start, the first declared step so named, or the end. -/
theorem node?_plain (flow : Flow) {id : String} (h : resumeTarget? id = none) :
    flow.node? id = if startId = id then some (.start flow.firstId) else
      ((flow.declared.find? (·.id = id)).map Node.step).or
        (if endId = id then some .finish else none) := by
  have hsteps : (flow.declared.map Node.step).find? (·.id = id) =
      (flow.declared.find? (·.id = id)).map Node.step := List.find?_map ..
  rw [node?, h]
  simp only [nodes, List.find?_cons, List.find?_append, hsteps, List.find?_nil]
  by_cases hstart : startId = id
  · simp [Node.id, hstart]
  · by_cases hend : endId = id <;> simp [Node.id, hstart, hend]

theorem node?_startId (flow : Flow) : flow.node? startId = some (.start flow.firstId) := by
  rw [node?_plain flow (by decide), if_pos rfl]

theorem node?_endId (h : flow.Sound) : flow.node? endId = some .finish := by
  have hnone : flow.declared.find? (·.id = endId) = none := by
    rw [List.find?_eq_none]
    intro step hstep
    simpa using ne_endId (h.free step hstep)
  rw [node?_plain flow (by decide), if_neg (by decide), hnone]
  rfl

theorem node?_of_distinct (hdistinct : (flow.declared.map (·.id)).Nodup) {step : Step}
    (hfree : isReservedId step.id = false) (hstep : step ∈ flow.declared) :
    flow.node? step.id = some (.step step) := by
  obtain ⟨found, hfound⟩ : ∃ found, flow.declared.find? (·.id = step.id) = some found := by
    rw [← Option.isSome_iff_exists, List.find?_isSome]
    exact ⟨step, hstep, by simp⟩
  have hsame : found = step := by
    refine List.inj_on_of_nodup_map hdistinct (List.mem_of_find?_eq_some hfound) hstep ?_
    simpa using List.find?_some hfound
  rw [node?_plain flow (resumeTarget?_eq_none hfree), if_neg (ne_startId hfree).symm, hfound, hsame]
  rfl

theorem node?_declared (h : flow.Sound) {step : Step} (hstep : step ∈ flow.declared) :
    flow.node? step.id = some (.step step) :=
  node?_of_distinct h.distinct (h.free step hstep) hstep

/-- A cursor of the flow: the start or a declared step. -/
def IsCursor (flow : Flow) (id : String) : Prop :=
  id = startId ∨ ∃ step ∈ flow.declared, step.id = id

/-- A node at which a cursor may stand. -/
def HasCurrent (flow : Flow) (node : Node) : Prop :=
  node = .start flow.firstId ∨ ∃ step ∈ flow.declared, node = .step step

/-- A node that may be interpreted: a declared step or the end. -/
def CanRun (flow : Flow) (node : Node) : Prop :=
  node = .finish ∨ ∃ step ∈ flow.declared, node = .step step

theorem node?_cursor (h : flow.Sound) {id : String} (hid : flow.IsCursor id) :
    ∃ node, flow.node? id = some node ∧ flow.HasCurrent node ∧ node.id = id := by
  rcases hid with rfl | ⟨step, hstep, rfl⟩
  · exact ⟨_, node?_startId flow, Or.inl rfl, rfl⟩
  · exact ⟨_, node?_declared h hstep, Or.inr ⟨step, hstep, rfl⟩, rfl⟩

theorem node?_reached (h : flow.Sound) {target : String} (ht : Defect.reaches flow target) :
    ∃ node, flow.node? target = some node ∧ flow.CanRun node ∧ node.id = target := by
  simp only [Defect.reaches, Bool.or_eq_true, decide_eq_true_eq, List.any_eq_true] at ht
  rcases ht with rfl | ⟨step, hstep, rfl⟩
  · exact ⟨_, node?_endId h, Or.inl rfl, rfl⟩
  · exact ⟨_, node?_declared h hstep, Or.inr ⟨step, hstep, rfl⟩, rfl⟩

theorem reaches_firstId (flow : Flow) : Defect.reaches flow flow.firstId := by
  unfold firstId
  cases hdeclared : flow.declared with
  | nil => simp [Defect.reaches]
  | cons step rest => simp [Defect.reaches, hdeclared]

/-- The links of a node at which a cursor may stand lead to the end or to a declared step. -/
theorem reaches_target (h : flow.Sound) {current : Node} (hcurrent : flow.HasCurrent current)
    {link : Link} (hlink : link ∈ current.next) : Defect.reaches flow link.target := by
  rcases hcurrent with rfl | ⟨step, hstep, rfl⟩
  · simp only [Node.next, List.mem_singleton] at hlink
    subst hlink
    exact reaches_firstId flow
  · exact h.reaching step hstep link hlink

/-- A link leads from a node at which a cursor may stand to a declared step or to the end. -/
theorem node?_next (h : flow.Sound) {current : Node} (hcurrent : flow.HasCurrent current)
    {link : Link} (hlink : link ∈ current.next) :
    ∃ node, flow.node? link.target = some node ∧ flow.CanRun node ∧ node.id = link.target :=
  node?_reached h (reaches_target h hcurrent hlink)

end Flow

namespace Catalog

variable {catalog : Catalog}

theorem mem_of_flow? {id : String} {flow : Flow} (h : catalog.flow? id = some flow) :
    flow ∈ catalog := List.mem_of_find?_eq_some h

theorem id_of_flow? {id : String} {flow : Flow} (h : catalog.flow? id = some flow) :
    flow.id = id := by
  simpa using List.find?_some h

theorem flow?_isSome_iff {id : String} :
    (catalog.flow? id).isSome ↔ ∃ flow ∈ catalog, flow.id = id := by
  simp [flow?]

end Catalog

end DialogueFlow
