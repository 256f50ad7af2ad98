/-
  What the end of a user's flow does to the rest of its turn. Main statement: `user_flow_ends`. The
  end of an interrupting flow over another flow of a user puts the frame on the stack that leads back
  into it, and the turn stops there. The end of the last flow puts the frame on the stack that marks
  it, and the turn consumes that frame and waits with an empty stack. Any other end only uncovers
  the frames below.
-/
import DialogueFlow.Proofs.Template.Plain
import DialogueFlow.Proofs.Turn.Placement
import DialogueFlow.Proofs.Turn.Visits

namespace DialogueFlow

/-! ## Which pattern follows -/

/-- A frame of a user's flow is a frame of a flow. -/
theorem Frame.isFlow_of_isUserFlow {frame : Frame} (h : frame.isUserFlow = true) :
    frame.kind.isFlow = true := by
  unfold isUserFlow at h
  cases hkind : frame.kind <;> rw [hkind] at h <;> first | rfl | cases h

/-- A node at which a cursor may stand is not the end. -/
theorem Flow.HasCurrent.not_endOfFlow {flow : Flow} (hflow : flow.Sound) {current : Node}
    (h : flow.HasCurrent current) : current.isEndOfFlow = false := by
  rcases h with rfl | ⟨step, hstep, rfl⟩
  · exact Node.start_goesOn _
  · have hfree := hflow.free step hstep
    have hresume : step.id ≠ resumeId endId := by
      intro h
      rw [h] at hfree
      exact absurd hfree (by decide)
    simp [Node.isEndOfFlow, Node.id, ne_endId hfree, hresume]

namespace Stack

variable {catalog : Catalog} {stack : Stack}

/-- In a placed stack the nearest frame of a user's flow stands at a node that is not the end. -/
theorem userNode?_of_placed (hcatalog : catalog.Sound) (hplaced : stack.Placed catalog)
    (huser : ∃ frame ∈ stack, frame.isUserFlow = true) :
    ∃ flow node, stack.userFlow? catalog = some flow ∧ stack.userNode? catalog = some node ∧
      node.isEndOfFlow = false := by
  have hsome : (stack.topUserFrame?).isSome = true := List.find?_isSome.mpr huser
  obtain ⟨frame, hframe⟩ := Option.isSome_iff_exists.mp hsome
  have hnearest : frame.isUserFlow = true := List.find?_some (p := Frame.isUserFlow) hframe
  obtain ⟨flow, hflow, hcursor⟩ := hplaced frame (List.mem_of_find?_eq_some hframe)
    (Frame.isFlow_of_isUserFlow hnearest)
  have hsound := hcatalog.flows flow (Catalog.mem_of_flow? hflow)
  obtain ⟨node, hnode, hcurrent, -⟩ := Flow.node?_cursor hsound hcursor
  refine ⟨flow, node, ?_, ?_, hcurrent.not_endOfFlow hsound⟩
  · rw [userFlow?, hframe, Option.bind_some, hflow]
  · rw [userNode?, hframe, Option.bind_some, hflow, Option.bind_some, hnode]

end Stack

namespace Pattern

variable {catalog : Catalog} {ended : Frame} {below : Stack}

/-- The end of an interrupting flow over a flow of a user leads back into that. -/
theorem patterns_of_interrupt (hcatalog : catalog.Sound) (hplaced : below.Placed catalog)
    (hkind : ended.kind = .interrupt) (huser : ∃ frame ∈ below, frame.isUserFlow = true) :
    ∃ flow, below.userFlow? catalog = some flow ∧
      afterLast ended (afterInterrupt ended below catalog) catalog =
        continueFrame flow.readableName :: below := by
  obtain ⟨flow, node, hflow, hnode, hgoesOn⟩ := Stack.userNode?_of_placed hcatalog hplaced huser
  exact ⟨flow, hflow, patterns_of_resumed hkind hflow hnode hgoesOn⟩

/-- The end of the last flow, a user's, is marked. -/
theorem patterns_of_last (huser : ended.isUserFlow = true) :
    afterLast ended (afterInterrupt ended [] catalog) catalog =
      [completedFrame ((catalog.flow? ended.flowId).map Flow.readableName)] := by
  have hresumed : afterInterrupt ended [] catalog = [] := by
    unfold afterInterrupt
    split <;> rfl
  rw [hresumed]
  exact if_pos ⟨rfl, huser⟩

/-- Any other end of a flow only uncovers the frames below. -/
theorem patterns_of_other
    (hother : ¬ (ended.kind = .interrupt ∧ ∃ frame ∈ below, frame.isUserFlow = true))
    (hlast : below = [] → ended.isUserFlow = false) :
    afterLast ended (afterInterrupt ended below catalog) catalog = below := by
  rcases patterns_cases ended below catalog with h | ⟨hkind, flow, hflow, -⟩ | ⟨hempty, huser, -⟩
  · exact h
  · obtain ⟨frame, hframe, -⟩ := Option.bind_eq_some_iff.mp hflow
    have hnearest : frame.isUserFlow = true := List.find?_some (p := Frame.isUserFlow) hframe
    exact absurd ⟨hkind, frame, List.mem_of_find?_eq_some hframe, hnearest⟩ hother
  · rw [hlast hempty] at huser
    cases huser

end Pattern

namespace Turn

variable {setting : Setting} {progress : Progress} {asked : List Question}

/-! ## The iterations after the end of a flow -/

/-- As long as a turn goes on, it stands on a placed stack. -/
theorem iterations_placed (hcatalog : setting.catalog.Executable) {n : Nat} {before : Progress}
    {log : List Question} (hplaced : progress.stack.Placed setting.catalog)
    (h : iterations setting n progress asked = ((before, none), log)) :
    before.stack.Placed setting.catalog := by
  have hkeeps : ∀ progress next, progress.stack.Placed setting.catalog →
      Iteration setting progress (next, none) → next.stack.Placed setting.catalog :=
    fun _ _ hprogress hiteration => hiteration.placed hcatalog hprogress
  have hstands := (iterations_cases hkeeps n progress hplaced asked).1 (congrArg (·.1.2) h)
  rwa [h] at hstands

/-- An iteration that comes to the end of the flow of a frame pops it, and patterns may follow. -/
theorem iterate_finish {ended : Frame} {rest : Stack} {outcome : Outcome}
    (hstack : progress.stack = ended :: rest)
    (hcall : call? setting progress asked = some ⟨.finish, outcome⟩) :
    ∃ next log, iterate setting progress asked = ((next, none), log) ∧ next.stack =
      Pattern.afterLast ended (Pattern.afterInterrupt ended rest setting.catalog)
        setting.catalog := by
  obtain ⟨top, below, flow, current, hat⟩ := at_of_call? hcall
  obtain ⟨rfl, rfl⟩ := List.cons.inj (hat.stack_eq.symm.trans hstack)
  have hcomes := interpret_comes hat asked
  rw [hcall, ← iterate_at hat] at hcomes
  rcases hiterate : iterate setting progress asked with ⟨⟨next, result⟩, log⟩
  rw [hiterate] at hcomes
  cases hcomes with
  | proceeded heffect =>
    rw [hstack] at heffect
    cases heffect with
    | ended hmoved =>
      obtain ⟨rfl, rfl⟩ := List.cons.inj hmoved
      exact ⟨_, log, rfl, Pattern.patterns_moved top endId below setting.catalog⟩
  | paused heffect => cases heffect

/-- An iteration with an empty stack ends the turn, which waits. -/
theorem iterate_nil (setting : Setting) (hstack : progress.stack = []) (asked : List Question) :
    iterate setting progress asked = ((progress, some (.ok progress.waiting)), asked) ∧
      visit? setting progress asked = none := by
  unfold iterate visit?
  rw [hstack]
  exact ⟨rfl, rfl⟩

/-- From the frame that leads back into a flow, the turn stops at once. -/
theorem loop_continued
    (hflow : setting.catalog.flow? Pattern.continueId = some Pattern.continueFlow)
    (hverbatim : setting.services.Verbatim)
    (hactions : "utter_flow_continue_interrupted" ∈ setting.actions) {name : String} {base : Stack}
    (hstack : progress.stack = Pattern.continueFrame name :: base) {ceiling rounds : Nat}
    {ended : Progress} {prediction : Prediction}
    (hended : (loop setting ceiling rounds progress asked).1 = (ended, .ok prediction)) :
    ended.stack = { Pattern.continueFrame name with stepId := "utter_continue" } :: base ∧
      prediction.action = some "utter_flow_continue_interrupted" ∧
      (visits setting rounds progress asked).length = 1 := by
  obtain _ | rounds := rounds
  · cases hended
  have hat := at_start hflow rfl rfl hstack
  let step : Step :=
    ⟨"utter_continue", .action (some "utter_flow_continue_interrupted"), [.always endId]⟩
  have hnext : Selection.nextNode setting.services (.start Pattern.continueFlow.firstId)
      Pattern.continueFlow progress.stack progress.conversation asked = (some (.step step), asked) :=
    Selection.nextNode_first _ _ _
  have hpredicts : Predicts setting step
      (Stack.context (progress.stack.moveTo "utter_continue")) "utter_flow_continue_interrupted" :=
    ⟨hactions, _, rfl, by decide, fun log => hverbatim.builtIn (by decide) log _⟩
  obtain ⟨log, hrun⟩ := run_predicts hpredicts progress.conversation asked
  have hiterate := (iterate_at hat asked).trans (interpret_pause hnext hrun)
  rw [loop_succ, hiterate] at hended
  cases hended
  refine ⟨?_, rfl, ?_⟩
  · exact hat.moveTo_eq "utter_continue"
  · rw [visits_succ_some hiterate, visit?_at hat]
    rfl

/-- From the frame that marks the end of the last flow, the turn consumes it and waits. -/
theorem loop_completed
    (hflow : setting.catalog.flow? Pattern.completedId = some Pattern.completedFlow)
    {name : Option String} (hstack : progress.stack = [Pattern.completedFrame name])
    {ceiling rounds : Nat} {ended : Progress} {prediction : Prediction}
    (hended : (loop setting ceiling rounds progress asked).1 = (ended, .ok prediction)) :
    ended.stack = [] ∧ prediction.action = some Domain.listenAction ∧
      ∃ last, visits setting rounds progress asked = [last] ∧ last.Finishes := by
  obtain _ | rounds := rounds
  · cases hended
  have hat := at_start hflow rfl rfl hstack
  have hnext : (Selection.nextNode setting.services (.start Pattern.completedFlow.firstId)
      Pattern.completedFlow progress.stack progress.conversation asked).1 = some .finish :=
    congrArg Prod.fst (Selection.nextNode_first _ _ _)
  have hcall := call?_finish hat hnext
  obtain ⟨next, log, hiterate, hpopped⟩ := iterate_finish hstack hcall
  have hempty : next.stack = [] :=
    hpopped.trans (Pattern.patterns_of_other (fun h => nomatch h.1) fun _ => rfl)
  rw [loop_succ, hiterate] at hended
  dsimp only at hended
  rw [visits_succ_none hiterate, visit?_at hat]
  obtain _ | rounds := rounds
  · cases hended
  obtain ⟨hwaits, hnone⟩ := iterate_nil setting hempty log
  rw [loop_succ, hwaits] at hended
  rw [visits_succ_some hwaits, hnone]
  cases hended
  exact ⟨hempty, rfl, _, rfl, _, hcall⟩

/-! ## The rest of the turn -/

/-- What the end of a user's flow does to the rest of its turn: the stack that its visit leaves on
`rest`, the visits after it, the stack that the turn leaves, and the action that it predicts. -/
structure Aftermath (catalog : Catalog) (ended : Frame) (rest left : Stack) (later : List Visit)
    (after : Stack) (action : Option String) : Prop where
  resumes : ended.kind = .interrupt → (∃ frame ∈ rest, frame.isUserFlow = true) →
    ∃ flow, rest.userFlow? catalog = some flow ∧
      left = Pattern.continueFrame flow.readableName :: rest ∧
      after = { Pattern.continueFrame flow.readableName with stepId := "utter_continue" } :: rest ∧
      action = some "utter_flow_continue_interrupted" ∧ later.length = 1
  completes : rest = [] →
    left = [Pattern.completedFrame ((catalog.flow? ended.flowId).map Flow.readableName)] ∧
      after = [] ∧ action = some Domain.listenAction ∧ ∃ last, later = [last] ∧ last.Finishes
  uncovers : ¬ (ended.kind = .interrupt ∧ ∃ frame ∈ rest, frame.isUserFlow = true) → rest ≠ [] →
    left = rest

/-- In a turn with a prediction, over a loaded catalog that replaces no built-in flow, the end of a
frame of a user's flow on `rest` has one of three outcomes. If the frame interrupted a flow of a
user, one frame leads back into the nearest and the turn stops at it. If the frame was the last, one
frame marks it, which the turn consumes before it waits with an empty stack. Otherwise no frame is
put on `rest`. -/
theorem user_flow_ends {text : String} {declared : Catalog}
    (hload : Catalog.load text = .ok declared)
    (hpatterns : ∀ flow ∈ Pattern.flows, declared.flow? flow.id = none) {stack : Stack}
    (hplaced : stack.Placed (Pattern.addTo declared)) (domain : Domain) {services : Services}
    (hverbatim : services.Verbatim) {ceiling : Nat} {conversation : Conversation}
    {asked : List Question} {after : Stack} {prediction : Prediction}
    (hturn : (selectAction ⟨Pattern.addTo declared, domain.actionNames, services⟩ ceiling stack
      conversation asked).1 = (after, .ok prediction))
    {earlier later : List Visit} {visit : Visit}
    (hseen : visits ⟨Pattern.addTo declared, domain.actionNames, services⟩ ceiling
      ⟨stack, conversation, []⟩ asked = earlier ++ visit :: later)
    {ended : Frame} {rest : Stack} (hbefore : visit.before = ended :: rest)
    (huser : ended.isUserFlow = true) (hfinishes : visit.Finishes) :
    Aftermath (Pattern.addTo declared) ended rest visit.after later after prediction.action := by
  let setting : Setting := ⟨Pattern.addTo declared, domain.actionNames, services⟩
  have hcatalog : setting.catalog.Executable :=
    Pattern.executable_addTo (Catalog.sound_of_load hload)
  have hbuiltIn : ∀ flow ∈ Pattern.flows, setting.catalog.flow? flow.id = some flow :=
    fun flow hflow => Pattern.flow?_addTo_of_mem hflow (hpatterns flow hflow)
  obtain ⟨n, before, log, hreached, hvisit, hlater⟩ := visits_split hseen
  obtain rfl := visit?_eq_some hvisit
  obtain ⟨outcome, hcall⟩ := hfinishes
  have hstands : Stack.Placed setting.catalog (ended :: rest) :=
    hbefore ▸ iterations_placed hcatalog hplaced hreached
  have hrest : rest.Placed setting.catalog :=
    fun frame hframe => hstands frame (List.mem_cons_of_mem _ hframe)
  -- the rest of the turn goes on from the stack that the end leaves
  obtain ⟨next, log', hiterate, hleft⟩ := iterate_finish hbefore hcall
  obtain ⟨rounds, last, hrounds, hloop, rfl⟩ := selectAction_rest hreached hturn
  rw [loop_succ, hiterate] at hloop
  rw [hrounds, visits_succ_none hiterate, hvisit] at hlater
  obtain rfl : visits setting rounds next log' = later := (List.cons.inj hlater).2
  rw [hiterate]
  constructor
  · intro hkind hinterrupted
    obtain ⟨flow, hflow, hpushed⟩ :=
      Pattern.patterns_of_interrupt hcatalog.sound hrest hkind hinterrupted
    have hstack := hleft.trans hpushed
    have hactions : "utter_flow_continue_interrupted" ∈ setting.actions := by
      rw [domain.mem_actionNames]
      exact List.mem_append_left _ (List.mem_append_left _ (by decide))
    obtain ⟨hafter, haction, hvisits⟩ := loop_continued
      (hbuiltIn _ Pattern.continueFlow_mem) hverbatim hactions hstack hloop
    exact ⟨flow, hflow, hstack, hafter, haction, hvisits⟩
  · rintro rfl
    have hstack := hleft.trans (Pattern.patterns_of_last huser)
    obtain ⟨hafter, haction, hvisits⟩ := loop_completed
      (hbuiltIn _ Pattern.completedFlow_mem) hstack hloop
    exact ⟨hstack, hafter, haction, hvisits⟩
  · intro hother hne
    exact hleft.trans (Pattern.patterns_of_other hother fun hempty => absurd hempty hne)

/-- The payment ends over the order that it interrupted: the turn stops at the frame that leads back
into the order. -/
theorem payment_ends_over_order :
    let setting : Setting := ⟨Pattern.addTo Catalog.order, Domain.empty.actionNames, plainServices⟩
    let paying : Frame := ⟨"pay", "thank", .interrupt, none⟩
    let ordering : Stack := [⟨"order", "size", .regular, none⟩]
    let prompt : Frame := Pattern.continueFrame "order"
    let after : Stack := { prompt with stepId := "utter_continue" } :: ordering
    ∃ visit later,
      visits setting 9 ⟨paying :: ordering, .fresh "user" .empty, []⟩ [] = visit :: later ∧
      (selectAction setting 9 (paying :: ordering) (.fresh "user" .empty) []).1 =
        (after, .ok (.certain "utter_flow_continue_interrupted" [] none)) ∧
      Aftermath setting.catalog paying ordering visit.after later after
        (some "utter_flow_continue_interrupted") := by
  intro setting paying ordering prompt after
  have hpatterns : ∀ flow ∈ Pattern.flows, Catalog.order.flow? flow.id = none := by decide
  have hplaced : Stack.Placed (Pattern.addTo Catalog.order) (paying :: ordering) := by
    intro frame hframe hkind
    rcases List.mem_cons.mp hframe with rfl | hframe
    · exact ⟨_, rfl, Or.inr ⟨_, List.mem_singleton_self _, rfl⟩⟩
    · obtain rfl := List.mem_singleton.mp hframe
      exact ⟨_, rfl, Or.inr ⟨_, List.mem_cons_self, rfl⟩⟩
  have hverbatim : plainServices.Verbatim := fun _ _ _ _ => rfl
  let ending : Visit :=
    ⟨paying :: ordering, some ⟨.finish, .proceed []⟩, prompt :: ordering⟩
  let prompting : Visit := ⟨prompt :: ordering,
    some ⟨.step ⟨"utter_continue", .action (some "utter_flow_continue_interrupted"),
      [.always endId]⟩, .pause "utter_flow_continue_interrupted" none⟩, after⟩
  have hseen : visits setting 9 ⟨paying :: ordering, .fresh "user" .empty, []⟩ [] =
      [] ++ ending :: [prompting] := by decide +kernel
  have hturn : (selectAction setting 9 (paying :: ordering) (.fresh "user" .empty) []).1 =
      (after, .ok (.certain "utter_flow_continue_interrupted" [] none)) := by decide +kernel
  exact ⟨ending, [prompting], hseen, hturn, user_flow_ends Catalog.load_order hpatterns hplaced
    .empty hverbatim hturn hseen rfl rfl ⟨_, rfl⟩⟩

/-- The payment ends as the last flow: the turn marks that and waits with an empty stack. -/
example :
    let setting : Setting := ⟨Pattern.addTo Catalog.order, Domain.empty.actionNames, plainServices⟩
    let paying : Stack := [⟨"pay", "thank", .regular, none⟩]
    let begun : Progress := ⟨paying, .fresh "user" .empty, []⟩
    (selectAction setting 9 paying begun.conversation []).1 =
        ([], .ok (.certain Domain.listenAction [] none)) ∧
      (visits setting 9 begun []).map Visit.before =
        [paying, [Pattern.completedFrame (some "pay")]] := by
  decide +kernel

end Turn

end DialogueFlow
