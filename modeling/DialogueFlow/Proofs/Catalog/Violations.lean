/-
  What a catalog's defects say of the steps as their author declares them, before links are filled
  in. Each way to break the rules is counted on the declared steps, without looking at the checks
  (`Catalog.violations`), and the checks find exactly so many defects: filling in links adds none
  and hides none (`countP_fallThrough`). Main statement: `messages_of_definitions`.
-/
import DialogueFlow.Proofs.Catalog.Soundness
import Mathlib.Algebra.Order.BigOperators.Group.List
import Mathlib.Algebra.Order.Ring.Nat
import Mathlib.Data.List.Induction

namespace DialogueFlow

/-! ## What is counted -/

/-- The number of ids that occur earlier in the list as well. -/
def repeats (ids : List String) : Nat :=
  ids.zipIdx.countP fun entry => entry.1 ∈ ids.take entry.2

/-- The id is one of a node that no author declares: the start, the end, or a resuming node. -/
def IsSynthetic (id : String) : Prop :=
  id = startId ∨ id = endId ∨ resumeMark.toList <+: id.toList

instance : DecidablePred IsSynthetic := fun id =>
  inferInstanceAs (Decidable (id = startId ∨ id = endId ∨ resumeMark.toList <+: id.toList))

/-- The id of the flow that a step links to. -/
def Step.linked? (step : Step) : Option String :=
  match step.task with
  | .link id => some id
  | _ => none

namespace Flow.Definition

variable (definitions : List Definition) (definition : Definition)

/-- The flow of a definition. -/
def flow : Flow := .ofDeclared definition.id definition.name definition.steps

def ids : List String := definition.steps.map (·.id)

/-- The number of steps with the id of a node that no author declares. -/
def synthetic : Nat := definition.ids.countP fun id => IsSynthetic id

/-- The number of declared links that lead neither to the end nor to a declared step. -/
def dangling : Nat :=
  (definition.steps.flatMap (·.next)).countP fun link => link.target ∉ endId :: definition.ids

/-- The number of steps that link to no flow of the catalog. -/
def missing : Nat :=
  (definition.steps.filterMap Step.linked?).countP fun id => id ∉ definitions.map (·.id)

/-- The number of rules that a flow of the catalog breaks. -/
def violations : Nat :=
  definition.synthetic + repeats definition.ids + definition.dangling +
    definition.missing definitions

/-- A flow of the catalog that breaks no rule. -/
structure Valid : Prop where
  free : ∀ step ∈ definition.steps, ¬ IsSynthetic step.id
  distinct : (definition.steps.map (·.id)).Nodup
  reaching : ∀ step ∈ definition.steps, ∀ link ∈ step.next,
    link.target = endId ∨ ∃ other ∈ definition.steps, other.id = link.target
  linked : ∀ step ∈ definition.steps, ∀ id, step.task = .link id →
    ∃ other ∈ definitions, other.id = id

end Flow.Definition

namespace Catalog

variable (definitions : List Flow.Definition)

/-- The catalog of these flows. -/
def ofDefinitions : Catalog := definitions.map Flow.Definition.flow

/-- The number of rules that a catalog breaks. -/
def violations : Nat :=
  repeats (definitions.map (·.id)) +
    (definitions.map fun definition => definition.violations definitions).sum

/-- A catalog that breaks no rule. -/
structure Valid : Prop where
  distinct : (definitions.map (·.id)).Nodup
  flows : ∀ definition ∈ definitions, definition.Valid definitions

end Catalog

/-! ## No rule is broken -/

theorem repeats_concat (ids : List String) (id : String) :
    repeats (ids ++ [id]) = repeats ids + if id ∈ ids then 1 else 0 := by
  unfold repeats
  rw [List.zipIdx_append, List.countP_append]
  congr 1
  · refine List.countP_congr fun entry hentry => ?_
    have hle : entry.2 ≤ ids.length := by
      have hlt := List.snd_lt_of_mem_zipIdx hentry
      omega
    rw [List.take_append_of_le_length hle]
  · by_cases h : id ∈ ids <;> simp [h]

theorem repeats_eq_zero_iff (ids : List String) : repeats ids = 0 ↔ ids.Nodup := by
  induction ids using List.reverseRecOn with
  | nil => simp [repeats]
  | append_singleton ids id ih =>
    rw [repeats_concat, ← List.concat_eq_append, List.nodup_concat]
    by_cases h : id ∈ ids <;> simp [h, ih]

theorem isReservedId_iff (id : String) : isReservedId id = true ↔ IsSynthetic id := by
  unfold isReservedId resumeTarget? IsSynthetic
  rw [← List.isPrefixOf_iff_prefix]
  by_cases h : resumeMark.toList.isPrefixOf id.toList <;> simp [h]

theorem Step.linked?_eq_some {step : Step} {id : String} :
    step.linked? = some id ↔ step.task = .link id := by
  unfold linked?
  cases step.task <;> simp

theorem Flow.Definition.violations_eq_zero_iff (definitions : List Flow.Definition)
    (definition : Flow.Definition) :
    definition.violations definitions = 0 ↔ definition.Valid definitions := by
  have hfree : definition.synthetic = 0 ↔ ∀ step ∈ definition.steps, ¬ IsSynthetic step.id := by
    simp [synthetic, ids]
  have hreaching : definition.dangling = 0 ↔ ∀ step ∈ definition.steps, ∀ link ∈ step.next,
      link.target = endId ∨ ∃ other ∈ definition.steps, other.id = link.target := by
    simp only [dangling, ids, List.countP_eq_zero, List.mem_flatMap, List.mem_cons, List.mem_map,
      decide_eq_true_eq, not_not]
    exact ⟨fun h step hstep link hlink => h link ⟨step, hstep, hlink⟩,
      fun h link ⟨step, hstep, hlink⟩ => h step hstep link hlink⟩
  have hlinked : definition.missing definitions = 0 ↔ ∀ step ∈ definition.steps, ∀ id,
      step.task = .link id → ∃ other ∈ definitions, other.id = id := by
    simp only [missing, List.countP_eq_zero, List.mem_filterMap, Step.linked?_eq_some,
      List.mem_map, decide_eq_true_eq, not_not]
    exact ⟨fun h step hstep id htask => h id ⟨step, hstep, htask⟩,
      fun h id ⟨step, hstep, htask⟩ => h step hstep id htask⟩
  rw [violations, Nat.add_eq_zero_iff, Nat.add_eq_zero_iff, Nat.add_eq_zero_iff, hfree,
    repeats_eq_zero_iff, hreaching, hlinked]
  exact ⟨fun ⟨⟨⟨hfree, hdistinct⟩, hreaching⟩, hlinked⟩ => ⟨hfree, hdistinct, hreaching, hlinked⟩,
    fun h => ⟨⟨⟨h.free, h.distinct⟩, h.reaching⟩, h.linked⟩⟩

theorem Catalog.violations_eq_zero_iff (definitions : List Flow.Definition) :
    violations definitions = 0 ↔ Valid definitions := by
  rw [violations, Nat.add_eq_zero_iff, repeats_eq_zero_iff, List.sum_eq_zero_iff,
    List.forall_mem_map]
  simp only [Flow.Definition.violations_eq_zero_iff]
  exact ⟨fun h => ⟨h.1, h.2⟩, fun h => ⟨h.distinct, h.flows⟩⟩

/-! ## Filling in links -/

namespace Flow

variable (p : String → Bool)

theorem countP_linked {following : String} (hfollowing : p following = false) (step : Step) :
    (linked step following).next.countP (p ·.target) = step.next.countP (p ·.target) := by
  unfold linked
  split
  · rfl
  · rename_i hnext _
    simp [hnext, hfollowing, Link.target]
  · rfl

/-- Filled-in links lead to the end or to a declared step, so they make no difference to the number
of links that lead elsewhere. -/
theorem countP_fallThrough (hend : p endId = false) {steps : List Step}
    (hids : ∀ step ∈ steps, p step.id = false) :
    ((fallThrough steps).flatMap (·.next)).countP (p ·.target) =
      (steps.flatMap (·.next)).countP (p ·.target) := by
  induction steps using fallThrough.induct with
  | case1 => rfl
  | case2 step => simp [fallThrough, countP_linked p hend]
  | case3 step following rest ih =>
    obtain ⟨-, hrest⟩ := List.forall_mem_cons.mp hids
    have hfollowing := hrest following List.mem_cons_self
    rw [fallThrough, List.flatMap_cons, List.countP_append, countP_linked p hfollowing, ih hrest,
      ← List.countP_append, ← List.flatMap_cons]

/-- Filling in links does not change which flows the steps link to. -/
theorem linked?_fallThrough (steps : List Step) :
    (fallThrough steps).filterMap Step.linked? = steps.filterMap Step.linked? := by
  have hlinked : ∀ step following, (linked step following).linked? = step.linked? := by
    intro step following
    rw [Step.linked?, Step.linked?, linked_task]
  fun_induction fallThrough steps <;> simp_all [List.filterMap_cons]

end Flow

/-! ## The number of defects -/

namespace Defect

/-- An id that is checked against those already seen. -/
theorem repeats_reverse_cons (seen : List String) (id : String) (defect : Defect) :
    repeats (id :: seen).reverse =
      repeats seen.reverse + (if id ∈ seen then [defect] else []).length := by
  rw [List.reverse_cons, repeats_concat]
  by_cases h : id ∈ seen <;> simp [h]

theorem length_ofIds (flow : String) (seen : List String) (steps : List Step) :
    (ofIds flow seen steps).length + repeats seen.reverse =
      (steps.map (·.id)).countP (fun id => IsSynthetic id) +
        repeats (seen.reverse ++ steps.map (·.id)) := by
  induction steps generalizing seen with
  | nil => simp [ofIds]
  | cons step rest ih =>
    have hrest := ih (step.id :: seen)
    rw [repeats_reverse_cons seen step.id (.repeatedStep flow step.id), List.reverse_cons,
      List.append_assoc, List.singleton_append] at hrest
    have hsynthetic : (if isReservedId step.id then [Defect.reservedStep flow step.id]
        else []).length = if IsSynthetic step.id then 1 else 0 := by
      simp only [isReservedId_iff]
      split <;> rfl
    rw [ofIds, List.length_append, List.length_append, hsynthetic, List.map_cons,
      List.countP_cons]
    simp only [decide_eq_true_eq]
    omega

theorem length_ofLinks (catalog : Catalog) (flow : Flow) (steps : List Step) :
    (steps.flatMap (ofLinks catalog flow)).length =
      (steps.flatMap (·.next)).countP (fun link => !reaches flow link.target) +
        (steps.filterMap Step.linked?).countP (fun id => !(catalog.flow? id).isSome) := by
  induction steps with
  | nil => rfl
  | cons step rest ih =>
    have hstep : (ofLinks catalog flow step).length =
        step.next.countP (fun link => !reaches flow link.target) +
          step.linked?.toList.countP (fun id => !(catalog.flow? id).isSome) := by
      rw [ofLinks, List.length_append, List.length_map, List.filter_map, List.length_map,
        ← List.countP_eq_length_filter, Step.linked?]
      congr 1
      cases step.task with
      | link id => cases h : catalog.flow? id <;> simp [h]
      | _ => rfl
    rw [List.flatMap_cons, List.length_append, hstep, ih, List.flatMap_cons, List.countP_append]
    have hfilterMap : (step :: rest).filterMap Step.linked? =
        step.linked?.toList ++ rest.filterMap Step.linked? := by
      cases h : step.linked? <;> simp [h]
    rw [hfilterMap, List.countP_append]
    omega

theorem length_ofFlows (catalog : Catalog) (seen : List String) (flows : List Flow) :
    (ofFlows catalog seen flows).length + repeats seen.reverse =
      repeats (seen.reverse ++ flows.map (·.id)) +
        (flows.map fun flow => (ofFlow catalog flow).length).sum := by
  induction flows generalizing seen with
  | nil => simp [ofFlows]
  | cons flow rest ih =>
    have hrest := ih (flow.id :: seen)
    rw [repeats_reverse_cons seen flow.id (.repeatedFlow flow.id), List.reverse_cons,
      List.append_assoc, List.singleton_append] at hrest
    rw [ofFlows, List.length_append, List.length_append, List.map_cons, List.map_cons,
      List.sum_cons]
    omega

theorem reaches_iff {flow : Flow} {target : String} :
    reaches flow target = true ↔ target ∈ endId :: flow.declared.map (·.id) := by
  simp [reaches]

variable (definitions : List Flow.Definition) (definition : Flow.Definition)

theorem countP_not_reaches :
    (definition.flow.declared.flatMap (·.next)).countP
      (fun link => !reaches definition.flow link.target) = definition.dangling := by
  have helsewhere : ∀ target, (!reaches definition.flow target) =
      decide (target ∉ endId :: definition.ids) := by
    intro target
    have hids : definition.flow.declared.map (·.id) = definition.ids :=
      Flow.ids_fallThrough definition.steps
    rw [Bool.eq_iff_iff, Bool.not_eq_true', ← Bool.not_eq_true, reaches_iff, hids,
      decide_eq_true_eq]
  simp only [helsewhere]
  refine Flow.countP_fallThrough (fun target => target ∉ endId :: definition.ids) ?_ ?_
  · simp
  · intro step hstep
    have hid : step.id ∈ definition.ids := List.mem_map_of_mem hstep
    simp [hid]

theorem countP_unknown :
    (definition.flow.declared.filterMap Step.linked?).countP
      (fun id => !((Catalog.ofDefinitions definitions).flow? id).isSome) =
        definition.missing definitions := by
  have hunknown : ∀ id, (!((Catalog.ofDefinitions definitions).flow? id).isSome) =
      decide (id ∉ definitions.map (·.id)) := by
    intro id
    rw [Bool.eq_iff_iff, Bool.not_eq_true', ← Bool.not_eq_true, Catalog.flow?_isSome_iff,
      decide_eq_true_eq]
    simp [Catalog.ofDefinitions, Flow.Definition.flow, Flow.ofDeclared]
  simp only [hunknown]
  exact congrArg _ (Flow.linked?_fallThrough definition.steps)

/-- A flow has as many defects as its definition breaks rules. -/
theorem length_ofFlow :
    (ofFlow (.ofDefinitions definitions) definition.flow).length =
      definition.violations definitions := by
  have hids : definition.flow.declared.map (·.id) = definition.ids :=
    Flow.ids_fallThrough definition.steps
  have hofIds := length_ofIds definition.flow.id [] definition.flow.declared
  rw [hids, List.reverse_nil, List.nil_append] at hofIds
  have hnone : repeats [] = 0 := rfl
  rw [ofFlow, List.length_append, length_ofLinks, countP_not_reaches, countP_unknown,
    Flow.Definition.violations, Flow.Definition.synthetic]
  omega

end Defect

/-- A catalog has as many defects as its definitions break rules. -/
theorem Catalog.length_defects (definitions : List Flow.Definition) :
    (ofDefinitions definitions).defects.length = violations definitions := by
  have hofFlows := Defect.length_ofFlows (ofDefinitions definitions) [] (ofDefinitions definitions)
  have hids : (ofDefinitions definitions).map (·.id) = definitions.map (·.id) := by
    rw [ofDefinitions, List.map_map]
    rfl
  have hflows : ((ofDefinitions definitions).map fun flow =>
      (Defect.ofFlow (ofDefinitions definitions) flow).length) =
        definitions.map fun definition => definition.violations definitions := by
    rw [ofDefinitions, List.map_map]
    exact List.map_congr_left fun definition _ => Defect.length_ofFlow definitions definition
  rw [hids, hflows] at hofFlows
  exact hofFlows

/-! ## Where links lead -/

/-- In a sound flow every link of every node leads to the end or to the one step of that id. -/
theorem Flow.Sound.target_resolves {flow : Flow} (h : flow.Sound) {node : Node}
    (hnode : node ∈ flow.nodes) {link : Link} (hlink : link ∈ node.next) :
    (link.target = endId ∧ flow.node? link.target = some .finish) ∨
      ∃ step ∈ flow.declared, step.id = link.target ∧
        flow.node? link.target = some (.step step) ∧
        (flow.declared.map (·.id)).count link.target = 1 := by
  have hcurrent : flow.HasCurrent node := by
    simp only [nodes, List.mem_cons, List.mem_append, List.mem_map, List.not_mem_nil,
      or_false] at hnode
    rcases hnode with rfl | ⟨step, hstep, rfl⟩ | rfl
    · exact Or.inl rfl
    · exact Or.inr ⟨step, hstep, rfl⟩
    · cases hlink
  obtain ⟨found, hfound, rfl | ⟨step, hstep, rfl⟩, hid⟩ := node?_next h hcurrent hlink
  · exact Or.inl ⟨hid.symm, hfound⟩
  · have hmem : link.target ∈ flow.declared.map (·.id) := hid ▸ List.mem_map_of_mem hstep
    exact Or.inr ⟨step, hstep, hid, hfound, List.count_eq_one_of_mem h.distinct hmem⟩

/-- Of a catalog whose flows are made from definitions: there is no message exactly if no definition
breaks a rule; there are as many messages as rules are broken; and if there is none, every link of
every node, that of the start included, leads to the end or to the one step of that id. -/
theorem Catalog.messages_of_definitions (definitions : List Flow.Definition) :
    let catalog := ofDefinitions definitions
    let messages := catalog.defects.map Defect.message
    (messages = [] ↔ Valid definitions) ∧ messages.length = violations definitions ∧
    (messages = [] → ∀ flow ∈ catalog, ∀ node ∈ flow.nodes, ∀ link ∈ node.next,
      (link.target = endId ∧ flow.node? link.target = some .finish) ∨
        ∃ step ∈ flow.declared, step.id = link.target ∧
          flow.node? link.target = some (.step step) ∧
          (flow.declared.map (·.id)).count link.target = 1) := by
  intro catalog messages
  have hlength : messages.length = violations definitions := by
    rw [List.length_map, length_defects]
  refine ⟨?_, hlength, fun hnone flow hflow node hnode link hlink => ?_⟩
  · rw [← violations_eq_zero_iff, ← hlength, List.length_eq_zero_iff]
  · have hsound : catalog.Sound := (defects_eq_nil_iff catalog).mp (List.map_eq_nil_iff.mp hnone)
    exact (hsound.flows flow hflow).target_resolves hnode hlink

/-- Two flows of one id. The first one has two steps of one id, a step that is named like the end, a
link that leads nowhere, and a link step to a flow that does not exist. -/
def Catalog.faulty : List Flow.Definition :=
  [⟨"a", none, [⟨"dup", .action (some "utter_a"), []⟩, ⟨"dup", .action (some "utter_b"), []⟩,
      ⟨"END", .action (some "utter_c"), []⟩, ⟨"b", .branch, [.otherwise "nowhere"]⟩,
      ⟨"l", .link "missing", []⟩]⟩,
    ⟨"a", none, []⟩]

theorem Catalog.faulty_messages :
    ¬ Valid faulty ∧ ((ofDefinitions faulty).defects.map Defect.message).length = 5 := by
  obtain ⟨hvalid, hlength, -⟩ := messages_of_definitions faulty
  have hviolations : violations faulty = 5 := by decide +kernel
  rw [hviolations] at hlength
  refine ⟨fun h => ?_, hlength⟩
  rw [hvalid.mpr h] at hlength
  cases hlength

end DialogueFlow
