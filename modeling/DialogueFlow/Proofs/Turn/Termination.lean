/-
  Turns that end. Over an acyclic catalog every iteration that goes on lowers the weight of the
  stack (`Iteration.weight_lt`), whatever the services answer. Main statement: `selectAction_ends`.
  If a turn trips under every ceiling, the catalog has a flow with a cycle, flows that link in a
  circle, or a step whose links may all fail; without these, no ceiling above `turnBound` trips.
-/
import DialogueFlow.Proofs.Template.Plain
import DialogueFlow.Proofs.Turn.Ceiling
import DialogueFlow.Proofs.Turn.Cost
import DialogueFlow.Proofs.Turn.Placement

namespace DialogueFlow

/-- What makes turns end: an acyclic catalog, and built-in actions that are rendered as they stand
and may be predicted. -/
structure Setting.Settles (setting : Setting) : Prop where
  executable : setting.catalog.Executable
  acyclic : setting.catalog.Acyclic
  verbatim : setting.services.Verbatim
  builtIn : ∀ name ∈ Domain.builtIn, name ∈ setting.actions

/-! ## What a node costs -/

namespace Stack

variable {catalog : Catalog}

theorem weight_pushBelowTop (stack : Stack) (frame : Frame) :
    weight catalog (stack.pushBelowTop frame) = frame.weight catalog + stack.weight catalog := by
  cases stack with
  | nil => exact weight_cons catalog frame []
  | cons top below =>
    rw [pushBelowTop, weight_cons, weight_cons, weight_cons]
    omega

/-- What follows an ended frame costs no more than the pattern that its frame was charged for. -/
theorem weight_ended (hcatalog : catalog.Acyclic) (ended : Frame) (below : Stack) :
    weight catalog (Pattern.afterLast ended (Pattern.afterInterrupt ended below catalog) catalog) ≤
      below.weight catalog + if ended.isUserFlow then 2 else 0 := by
  rcases Pattern.patterns_cases ended below catalog with
    h | ⟨hkind, flow, -, h⟩ | ⟨-, huser, h⟩ <;> rw [h]
  · exact Nat.le_add_right _ _
  · have huser : ended.isUserFlow = true := by
      rw [Frame.isUserFlow, hkind]
      rfl
    rw [weight_cons, weight_continueFrame hcatalog, if_pos huser]
    omega
  · rw [weight_cons, weight_completedFrame hcatalog, if_pos huser]
    have hempty : weight catalog [] = 0 := rfl
    omega

end Stack

namespace Interpreter.Effect

variable {setting : Setting} {flow : Flow} {stack after : Stack} {conversation : Conversation}

/-- After a step that predicts a built-in action the turn does not go on. -/
theorem passes (hsetting : setting.Settles) {step : Step} {events : List Event}
    (h : Effect setting flow stack conversation (.step step) (.ok (.proceed events, after))) :
    step.passes = true := by
  unfold Step.passes
  cases h with
  | @skipped _ template name asked htask hrender hname =>
    rw [htask]
    refine decide_eq_true fun hbuiltIn => hname ?_
    rw [hsetting.verbatim.builtIn hbuiltIn, Except.ok.injEq] at hrender
    exact hrender ▸ hsetting.builtIn template hbuiltIn
  | collected htask => rw [htask]
  | assigned htask => rw [htask]
  | branched htask => rw [htask]
  | linked htask => rw [htask]

/-- A step adds no more to the stack than it is charged for. -/
theorem step_weight (hcatalog : setting.catalog.Acyclic)
    (hflow : setting.catalog.flow? flow.id = some flow) {step : Step} (hstep : step ∈ flow.declared)
    {events : List Event}
    (h : Effect setting flow stack conversation (.step step) (.ok (.proceed events, after))) :
    after.weight setting.catalog ≤ stack.weight setting.catalog +
      step.charge (setting.catalog.activation (setting.catalog.rank flow.id)) := by
  cases h with
  | collected htask =>
    rw [Stack.push, Stack.weight_cons, weight_collectFrame hcatalog, Step.charge, htask]
    exact Nat.le_of_eq (Nat.add_comm _ _)
  | linked htask =>
    have hlink := Frame.weight_link hcatalog.links ⟨flow, hflow, step, hstep, htask⟩
    rw [Stack.weight_pushBelowTop, Step.charge, htask]
    dsimp only
    omega
  | _ => exact Nat.le_add_right _ _

theorem finish_weight (hcatalog : setting.catalog.Acyclic) {top : Frame} {below : Stack}
    (hstack : stack = top :: below) {outcome : Outcome}
    (h : Effect setting flow stack conversation .finish (.ok (outcome, after))) :
    after.weight setting.catalog ≤
      below.weight setting.catalog + if top.isUserFlow then 2 else 0 := by
  cases h with
  | ended hstack' =>
    rw [hstack] at hstack'
    cases hstack'
    exact Stack.weight_ended hcatalog top below

end Interpreter.Effect

/-! ## What an iteration costs -/

namespace Turn

variable {setting : Setting}

theorem At.flow?_id {catalog : Catalog} {stack below : Stack} {top : Frame} {flow : Flow}
    {current : Node} (h : At catalog stack top below flow current) :
    catalog.flow? flow.id = some flow := by
  rw [Catalog.id_of_flow? h.flow_eq]
  exact h.flow_eq

theorem At.weight_eq {catalog : Catalog} {stack below : Stack} {top : Frame} {flow : Flow}
    {current : Node} (h : At catalog stack top below flow current) :
    stack.weight catalog = (flow.cost (catalog.activation (catalog.rank flow.id)) top.stepId +
      if top.isUserFlow then 2 else 0) + below.weight catalog := by
  rw [h.stack_eq, Stack.weight_cons, Frame.weight_eq h.flow_eq]

theorem At.weight_moveTo {catalog : Catalog} {stack below : Stack} {top : Frame} {flow : Flow}
    {current : Node} (h : At catalog stack top below flow current) (id : String) :
    Stack.weight catalog (stack.moveTo id) =
      (flow.cost (catalog.activation (catalog.rank flow.id)) id +
        if top.isUserFlow then 2 else 0) + below.weight catalog := by
  have hmoved : catalog.flow? (Frame.flowId { top with stepId := id }) = some flow := h.flow_eq
  have hweight := Frame.weight_eq hmoved
  rw [h.moveTo_eq, Stack.weight_cons, hweight]
  rfl

/-- Over an acyclic catalog the turn only goes on for a lighter stack. -/
theorem Iteration.weight_lt (hsetting : setting.Settles) {progress next : Progress}
    (hplaced : progress.stack.Placed setting.catalog)
    (h : Iteration setting progress (next, none)) :
    next.stack.weight setting.catalog < progress.stack.weight setting.catalog := by
  cases h with
  | stalled hat hnext =>
    obtain ⟨hflow, hsound, hcurrent, -⟩ := hat.hasCurrent hsetting.executable hplaced
    obtain ⟨step, hstep, -, hopen⟩ := Selection.isOpen_of_nextId_eq_none hsound
      (hsetting.acyclic.fallsThrough _ hflow) hcurrent
      (Selection.nextNode_eq_none hsound hcurrent hnext)
    exact absurd hopen (hsetting.acyclic.matched _ hflow step hstep)
  | @proceeded top below flow current node asked events stack hat hnext heffect =>
    obtain ⟨hflow, hsound, hcurrent, hid⟩ := hat.hasCurrent hsetting.executable hplaced
    show stack.weight setting.catalog < _
    rw [hat.weight_eq]
    rcases Selection.nextNode_some hsound hcurrent hnext with
      rfl | ⟨step, hstep, rfl, link, hlink, htarget⟩
    · -- the end: the frame is dropped, and what follows it was charged for
      have huser : Frame.isUserFlow { top with stepId := endId } = top.isUserFlow := rfl
      have hweight := heffect.finish_weight hsetting.acyclic (hat.moveTo_eq endId)
      have hcost := flow.cost_pos (setting.catalog.activation (setting.catalog.rank flow.id))
        top.stepId
      rw [huser] at hweight
      omega
    · have hleads := Flow.leads_next hcurrent hlink
      rw [hid, htarget] at hleads
      have hweight : _ ≤ Stack.weight setting.catalog (progress.stack.moveTo step.id) + _ :=
        heffect.step_weight hsetting.acyclic hat.flow?_id hstep
      have hcost := Flow.cost_lt (setting.catalog.activation (setting.catalog.rank flow.id))
        (hsetting.acyclic.flows flow hflow) hstep (ne_startId (hsound.free step hstep))
        (heffect.passes hsetting) hleads
      rw [hat.weight_moveTo] at hweight
      omega

/-! ## Turns that end -/

/-- As many iterations as the stack weighs, and one more, have a result. -/
theorem iterations_ne_none (hsetting : setting.Settles) {n : Nat} {progress : Progress}
    (hplaced : progress.stack.Placed setting.catalog)
    (hweight : progress.stack.weight setting.catalog < n) (asked : List Question) :
    (iterations setting n progress asked).1.2 ≠ none := by
  induction n generalizing progress asked with
  | zero => omega
  | succ n ih =>
    have hiteration := iterate_iteration setting progress asked
    rcases hstep : iterate setting progress asked with ⟨⟨next, ended⟩, asked'⟩
    rw [hstep] at hiteration
    cases ended with
    | none =>
      have hlighter : next.stack.weight setting.catalog < progress.stack.weight setting.catalog :=
        hiteration.weight_lt hsetting hplaced
      have hnext : next.stack.Placed setting.catalog :=
        (hiteration.derivedFrom hsetting.executable hplaced).placed hplaced
      rw [iterations_succ_none hstep]
      exact ih hnext (by omega) asked'
    | some result =>
      rw [iterations_succ_some hstep]
      simp

/-- No ceiling above the bound of the stack trips. -/
theorem not_tripped_of_turnBound_lt (hsetting : setting.Settles) {stack : Stack}
    (hplaced : stack.Placed setting.catalog) {ceiling : Nat}
    (hceiling : stack.turnBound setting.catalog < ceiling) (conversation : Conversation)
    (asked : List Question) :
    ¬ Tripped (selectAction setting ceiling stack conversation asked).1.2 := by
  rw [tripped_iff]
  have hbound := stack.weight_le_turnBound setting.catalog
  have hweight : stack.weight setting.catalog < ceiling := by omega
  exact iterations_ne_none hsetting hplaced hweight asked

/-- A turn over a loaded catalog that trips under every ceiling does so for a cycle within a flow, a
cycle of links between flows, or a step whose links may all fail. Otherwise every ceiling above a
bound that only depends on the catalog and the stack lets the turn end with a prediction, or with an
error over the action of a step. -/
theorem selectAction_ends {text : String} {declared : Catalog}
    (hload : Catalog.load text = .ok declared)
    (hpatterns : ∀ flow ∈ Pattern.flows, declared.flow? flow.id = none) (domain : Domain)
    {services : Services} (hverbatim : services.Verbatim) {stack : Stack}
    (hplaced : stack.Placed (Pattern.addTo declared)) (conversation : Conversation)
    (asked : List Question) :
    let turn := fun ceiling => (selectAction ⟨Pattern.addTo declared, domain.actionNames, services⟩
      ceiling stack conversation asked).1.2
    ((∀ ceiling, Tripped (turn ceiling)) → declared.MaySpin) ∧
    (¬ declared.MaySpin → ∀ ceiling, stack.turnBound (Pattern.addTo declared) < ceiling →
      (∃ prediction, turn ceiling = .ok prediction) ∨
      (∃ flowId stepId, turn ceiling = .error (.missingAction flowId stepId)) ∨
      ∃ template reason, turn ceiling = .error (.templateFailed template reason)) := by
  intro turn
  have hcatalog :
      (Setting.mk (Pattern.addTo declared) domain.actionNames services).catalog.Executable :=
    Pattern.executable_addTo (Catalog.sound_of_load hload)
  have hends : ¬ declared.MaySpin → ∀ ceiling, stack.turnBound (Pattern.addTo declared) < ceiling →
      ¬ Tripped (turn ceiling) := by
    intro hspin ceiling hceiling
    have hsettles : (Setting.mk (Pattern.addTo declared) domain.actionNames services).Settles :=
      ⟨hcatalog, Catalog.acyclic_of_load hload hpatterns hspin, hverbatim, fun name hname =>
        (domain.mem_actionNames name).mpr (by simp [hname])⟩
    exact not_tripped_of_turnBound_lt hsettles hplaced hceiling conversation asked
  refine ⟨fun htrips => ?_, fun hspin ceiling hceiling => ?_⟩
  · by_contra hspin
    exact hends hspin _ (Nat.lt_succ_self _) (htrips _)
  · have hnot := hends hspin ceiling hceiling
    obtain ⟨-, herror⟩ := selectAction_placed hcatalog hplaced ceiling conversation asked
    cases hresult : turn ceiling with
    | ok prediction => exact Or.inl ⟨prediction, rfl⟩
    | error cause =>
      rcases herror cause hresult with haction | htripped
      · rcases FlowError.isOfAction_iff.mp haction with
          ⟨flowId, stepId, rfl⟩ | ⟨template, reason, rfl⟩
        · exact Or.inr (Or.inl ⟨flowId, stepId, rfl⟩)
        · exact Or.inr (Or.inr ⟨template, reason, rfl⟩)
      · exact absurd ⟨_, _, hresult.trans (congrArg Except.error htripped)⟩ hnot

theorem order_not_maySpin : ¬ Catalog.order.MaySpin := by
  have hplaces : ∀ flow ∈ Catalog.order, ∀ step ∈ flow.declared, ∀ link ∈ step.next,
      ["size", "thank", endId].idxOf step.id < ["size", "thank", endId].idxOf link.target := by
    decide
  have hlinks : ∀ flow ∈ Catalog.order, ∀ step ∈ flow.declared,
      flow.id = "order" ∧ step.task = .link "pay" ∨ step.task.kindName ≠ "link" := by decide
  have hmatched : ∀ flow ∈ Catalog.order, ∀ step ∈ flow.declared, ¬ step.IsOpen := by decide
  rintro (⟨flow, hflow, hcycle⟩ | hcycle | ⟨flow, hflow, step, hstep, hopen⟩)
  · exact Flow.not_hasCycle (fun id => ["size", "thank", endId].idxOf id) (hplaces flow hflow)
      hcycle
  · refine Catalog.not_hasLinkCycle (fun id => ["order"].idxOf id)
      (fun flow hflow step hstep id htask => ?_) hcycle
    rcases hlinks flow hflow step hstep with ⟨hid, hpay⟩ | hkind
    · rw [htask] at hpay
      cases hpay
      rw [hid]
      decide
    · exact absurd (by rw [htask]; rfl) hkind
  · exact hmatched flow hflow step hstep hopen

/-- The turn that starts the order flow ends under a ceiling of 13. -/
theorem order_turn_ends :
    let stack : Stack := [.atStart "order" .regular]
    let turn := fun ceiling => (selectAction ⟨Pattern.addTo Catalog.order, Domain.empty.actionNames,
      Templated.services⟩ ceiling stack (.fresh "user" .empty) []).1.2
    stack.turnBound (Pattern.addTo Catalog.order) = 12 ∧
    ((∃ prediction, turn 13 = .ok prediction) ∨
      (∃ flowId stepId, turn 13 = .error (.missingAction flowId stepId)) ∨
      ∃ template reason, turn 13 = .error (.templateFailed template reason)) := by
  intro stack turn
  have hbound : stack.turnBound (Pattern.addTo Catalog.order) = 12 := by decide +kernel
  have hpatterns : ∀ flow ∈ Pattern.flows, Catalog.order.flow? flow.id = none := by decide
  have hplaced : stack.Placed (Pattern.addTo Catalog.order) :=
    (Stack.placed_nil _).push rfl (by decide)
  exact ⟨hbound, (selectAction_ends Catalog.load_order hpatterns .empty
    Templated.verbatim_services hplaced (.fresh "user" .empty) []).2 order_not_maySpin 13
    (by omega)⟩

end Turn

end DialogueFlow
