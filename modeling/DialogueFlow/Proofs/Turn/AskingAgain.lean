/-
  Asking again for a slot that was set before. A collect step that asks before filling sets the slot
  back to its initial value and puts a frame on the stack that asks for it. While the slot is not
  filled, a turn stays at that frame (`Progress.Asks.rest`); once it is, the frame ends without
  having asked (`Asker.finishes`). Main statement: `asks_again_iff`. So the user is asked
  again exactly if the initial value of the slot leaves it empty.
-/
import DialogueFlow.Proofs.Template.Plain
import DialogueFlow.Proofs.Turn.Collecting
import DialogueFlow.Proofs.Turn.Recognition
import DialogueFlow.Proofs.Turn.Visits

namespace DialogueFlow

/-- The template of what a frame that asks says. -/
def Pattern.utterance : String := "\x7b\x7b context.utter \x7d\x7d"

/-- What a step of the flow that asks comes to: it leaves the stack, and the turn stops exactly for
what is available of the utterance and the action to listen. -/
theorem Interpreter.Effect.collectFlow_step {setting : Setting} {flow : Flow} {stack after : Stack}
    {conversation : Conversation} {step : Step} {outcome : Outcome}
    (hstep : step ∈ Pattern.collectFlow.declared)
    (h : Effect setting flow stack conversation (.step step) (.ok (outcome, after))) :
    after = stack ∧ (step.id = "start" ∧ outcome = .proceed [] ∨
      ∃ template name log,
        (step.id = "ask_collect" ∧ template = Pattern.utterance ∨
          step.id = "listen" ∧ template = Domain.listenAction) ∧
        setting.services.evaluator.render log template (Condition.templateRoot stack.context) =
          .ok name ∧
        (outcome = .pause name none ∧ name ∈ setting.actions ∨
          outcome = .proceed [] ∧ name ∉ setting.actions)) := by
  have htasks : ∀ {template}, step.task = .action (some template) →
      step.id = "ask_collect" ∧ template = Pattern.utterance ∨
        step.id = "listen" ∧ template = Domain.listenAction := by
    intro template htask
    rcases Pattern.step_collectFlow hstep with ⟨-, h⟩ | ⟨hid, h⟩ | ⟨hid, h⟩ <;>
      cases h.symm.trans htask
    · exact Or.inl ⟨hid, rfl⟩
    · exact Or.inr ⟨hid, rfl⟩
  cases h with
  | @predicted _ _ name log htask hrender hname =>
    exact ⟨rfl, Or.inr ⟨_, name, log, htasks htask, hrender, Or.inl ⟨rfl, hname⟩⟩⟩
  | @skipped _ _ name log htask hrender hname =>
    exact ⟨rfl, Or.inr ⟨_, name, log, htasks htask, hrender, Or.inr ⟨rfl, hname⟩⟩⟩
  | branched htask =>
    rcases Pattern.step_collectFlow hstep with ⟨hid, -⟩ | ⟨-, h⟩ | ⟨-, h⟩
    · exact ⟨rfl, Or.inl ⟨hid, rfl⟩⟩
    all_goals cases h.symm.trans htask
  | collected htask | assigned htask | linked htask | generated htask =>
    rcases Pattern.step_collectFlow hstep with ⟨-, h⟩ | ⟨-, h⟩ | ⟨-, h⟩ <;>
      cases h.symm.trans htask

namespace Turn

/-! ## The rest of a turn at a frame that asks -/

/-- The services have this text for a template of the frame, at some time. -/
def Says (setting : Setting) (frame : Frame) (template text : String) : Prop :=
  ∃ log, setting.services.evaluator.render log template
    (Condition.templateRoot (frame.context.getD [])) = .ok text

/-- How a turn ends at a frame that asks, on others: it says what it asks if that is available, and
else it listens. -/
inductive EndsAt (setting : Setting) (frame : Frame) (base : Stack) : Stack → Option String → Prop
  | asking {name : String} (hsaid : Says setting frame Pattern.utterance name)
      (hname : name ∈ setting.actions) :
      EndsAt setting frame base ({ frame with stepId := "ask_collect" } :: base) (some name)
  | listening {name listen : String} (hsaid : Says setting frame Pattern.utterance name)
      (hname : name ∉ setting.actions) (hlistens : Says setting frame Domain.listenAction listen)
      (hlisten : listen ∈ setting.actions) :
      EndsAt setting frame base ({ frame with stepId := "listen" } :: base) (some listen)

/-- The turn ends with the frame on top. -/
theorem EndsAt.stack_eq {setting : Setting} {frame : Frame} {base after : Stack}
    {action : Option String} (h : EndsAt setting frame base after action) :
    ∃ stepId, after = { frame with stepId } :: base := by
  cases h with
  | asking => exact ⟨_, rfl⟩
  | listening => exact ⟨_, rfl⟩

/-- The frame asks for the slot, by the built-in flow, and the services tell when it is done. -/
structure Asker (setting : Setting) (frame : Frame) (slot : String) : Prop where
  collects : setting.catalog.flow? Pattern.collectId = some Pattern.collectFlow
  asks : frame.AsksFor slot
  isFlow : frame.kind.isFlow = true
  tells : setting.services.TellsFilled slot

/-- The turn stands at a frame that asks, on others; its working copy is this conversation. -/
structure Progress.Asks (setting : Setting) (frame : Frame) (base : Stack)
    (conversation : Conversation) (progress : Progress) : Prop where
  conversation_eq : progress.conversation = conversation
  /-- Only what is not available to be said is passed over. -/
  cursor : ∃ stepId, Pattern.collectFlow.IsCursor stepId ∧
    progress.stack = { frame with stepId } :: base ∧
    (stepId = "ask_collect" →
      ∃ name, Says setting frame Pattern.utterance name ∧ name ∉ setting.actions)

variable {setting : Setting} {frame : Frame} {base : Stack} {conversation : Conversation}
  {progress : Progress} {slot : String}

theorem Asker.flow_eq (h : Asker setting frame slot) :
    setting.catalog.flow? frame.flowId = some Pattern.collectFlow := by
  rw [h.asks.1]
  exact h.collects

/-- The frame is on top of its flow. -/
theorem Asker.at (h : Asker setting frame slot) {stepId : String}
    (hcursor : Pattern.collectFlow.IsCursor stepId)
    (hstack : progress.stack = { frame with stepId } :: base) :
    ∃ current, At setting.catalog progress.stack { frame with stepId } base Pattern.collectFlow
      current ∧ Pattern.collectFlow.HasCurrent current ∧ current.id = stepId := by
  obtain ⟨current, hnode, hcurrent, hid⟩ := Flow.node?_cursor Pattern.sound_collectFlow hcursor
  exact ⟨current, ⟨hstack, h.isFlow, h.flow_eq, hnode⟩, hcurrent, hid⟩

/-- What the condition of the frame comes to. -/
theorem Asker.done_iff (h : Asker setting frame slot) (stepId : String) (base : Stack)
    (asked : List Question) :
    (Condition.holds setting.services Pattern.collectDone
      (Stack.context ({ frame with stepId } :: base)) conversation asked).1 = true ↔
        conversation.Fills slot :=
  h.tells _ conversation asked h.asks.2

/-- What comes next while the slot is not filled: a step of the flow that asks; it listens only
after it asked. -/
theorem Asker.next_of_empty (h : Asker setting frame slot) (hempty : ¬ conversation.Fills slot)
    {stepId : String} {current node : Node} {asked : List Question}
    (hcurrent : Pattern.collectFlow.HasCurrent current) (hid : current.id = stepId)
    (hnext : (Selection.nextNode setting.services current Pattern.collectFlow
      ({ frame with stepId } :: base) conversation asked).1 = some node) :
    ∃ step ∈ Pattern.collectFlow.declared, node = .step step ∧
      (step.id = "listen" → stepId = "ask_collect") := by
  have hnot := mt (h.done_iff stepId base asked).mp hempty
  have hsteps := Pattern.next_collectFlow hcurrent hnext
  rcases Selection.nextNode_some Pattern.sound_collectFlow hcurrent hnext with
    rfl | ⟨step, hstep, rfl, -⟩
  · rcases hsteps with ⟨-, hdone⟩ | ⟨h, -⟩ | ⟨h, -⟩ | h
    · exact absurd hdone hnot
    all_goals exact absurd h (by decide)
  · refine ⟨step, hstep, rfl, fun hlisten => ?_⟩
    rcases hsteps with ⟨-, hdone⟩ | ⟨h, -⟩ | ⟨-, h⟩ | h
    · exact absurd hdone hnot
    · exact absurd (h.symm.trans hlisten) (by decide)
    · exact hid.symm.trans h
    · exact absurd (h.symm.trans hlisten) (by decide)

/-- An iteration at a frame that asks for a slot that is not filled stays there, or ends the turn
there. -/
theorem Iteration.asks (hasker : Asker setting frame slot) (hempty : ¬ conversation.Fills slot)
    (hprogress : progress.Asks setting frame base conversation)
    {after : Progress × Option (Except FlowError Prediction)}
    (h : Iteration setting progress after) :
    (after.2 = none → after.1.Asks setting frame base conversation) ∧
      ∀ prediction, after.2 = some (.ok prediction) →
        EndsAt setting frame base after.1.stack prediction.action := by
  obtain ⟨rfl, stepId, hcursor, hstack, hpassed⟩ := hprogress
  obtain ⟨current, hat, hcurrent, hid⟩ := hasker.at hcursor hstack
  cases h with
  | idle hidle =>
    have hkind : frame.kind.isFlow = false := hidle { frame with stepId } base hstack
    rw [hasker.isFlow] at hkind
    cases hkind
  | unknownFlow _ _ _ | unknownStep _ _ _ _ | failed _ _ _ => exact ⟨nofun, nofun⟩
  | stalled => exact ⟨fun _ => ⟨rfl, stepId, hcursor, hstack, hpassed⟩, nofun⟩
  | proceeded hat' hnext heffect =>
    obtain ⟨rfl, rfl, rfl, rfl⟩ := hat.unique hat'
    rw [hstack] at hnext heffect
    obtain ⟨step, hstep, rfl, -⟩ := hasker.next_of_empty hempty hcurrent hid hnext
    obtain ⟨rfl, hcomes⟩ := heffect.collectFlow_step hstep
    refine ⟨fun _ => ?_, nofun⟩
    rcases hcomes with ⟨hid, hnone⟩ | ⟨template, name, log, htemplate, hrender, hskipped⟩
    · cases hnone
      refine ⟨rfl, step.id, Or.inr ⟨step, hstep, rfl⟩, rfl, fun hask => ?_⟩
      exact absurd (hid.symm.trans hask) (by decide)
    · obtain ⟨hnone, hname⟩ := hskipped.resolve_left (fun h => by cases h.1)
      cases hnone
      refine ⟨rfl, step.id, Or.inr ⟨step, hstep, rfl⟩, rfl, fun hask => ?_⟩
      rcases htemplate with ⟨-, rfl⟩ | ⟨hlisten, -⟩
      · exact ⟨name, ⟨log, hrender⟩, hname⟩
      · exact absurd (hlisten.symm.trans hask) (by decide)
  | paused hat' hnext heffect =>
    obtain ⟨rfl, rfl, rfl, rfl⟩ := hat.unique hat'
    rw [hstack] at hnext heffect
    obtain ⟨step, hstep, rfl, hlisten⟩ := hasker.next_of_empty hempty hcurrent hid hnext
    obtain ⟨rfl, hcomes⟩ := heffect.collectFlow_step hstep
    refine ⟨nofun, ?_⟩
    rintro _ ⟨⟩
    rcases hcomes with ⟨-, hnone⟩ | ⟨template, name, log, htemplate, hrender, hpaused⟩
    · cases hnone
    · obtain ⟨hnone, hname⟩ := hpaused.resolve_right (fun h => by cases h.1)
      cases hnone
      rcases htemplate with ⟨hask, rfl⟩ | ⟨hlistens, rfl⟩
      · have hends : EndsAt setting frame base ({ frame with stepId := "ask_collect" } :: base)
            (some _) := .asking ⟨log, hrender⟩ hname
        rw [← hask] at hends
        exact hends
      · obtain ⟨said, hsaid, hunavailable⟩ := hpassed (hlisten hlistens)
        have hends : EndsAt setting frame base ({ frame with stepId := "listen" } :: base)
            (some _) := .listening hsaid hunavailable ⟨log, hrender⟩ hname
        rw [← hlistens] at hends
        exact hends

/-- The rest of a turn stays at a frame on others: every visit is of that frame and does not end it,
so that no other is advanced, and the turn ends there. -/
structure StaysAt (setting : Setting) (frame : Frame) (base : Stack) (later : List Visit)
    (after : Stack) (action : Option String) : Prop where
  visits : ∀ visit ∈ later,
    ¬ visit.Finishes ∧ ∃ stepId, visit.before = { frame with stepId } :: base
  ends : EndsAt setting frame base after action

/-- A visit of a frame that asks for a slot that is not filled does not end it. -/
theorem Progress.Asks.visit (h : progress.Asks setting frame base conversation)
    (hasker : Asker setting frame slot) (hempty : ¬ conversation.Fills slot)
    (asked : List Question) : ∀ visit ∈ (visit? setting progress asked).toList,
      ¬ visit.Finishes ∧ ∃ stepId, visit.before = { frame with stepId } :: base := by
  intro visit hvisit
  obtain ⟨rfl, stepId, hcursor, hstack, -⟩ := h
  obtain ⟨current, hat, hcurrent, hid⟩ := hasker.at hcursor hstack
  rw [Option.mem_toList] at hvisit
  obtain rfl := Option.some.inj ((visit?_at hat asked).symm.trans hvisit)
  refine ⟨?_, stepId, hstack⟩
  rintro ⟨outcome, hcall⟩
  have hnext := nextNode_of_call? hat hcall
  rw [hstack] at hnext
  obtain ⟨step, -, hstep, -⟩ := hasker.next_of_empty hempty hcurrent hid hnext
  cases hstep

/-- While the slot is not filled, the rest of a turn stays at the frame that asks. -/
theorem Progress.Asks.rest (h : progress.Asks setting frame base conversation)
    (hasker : Asker setting frame slot) (hempty : ¬ conversation.Fills slot) {ceiling rounds : Nat}
    {asked : List Question} {ended : Progress} {prediction : Prediction}
    (hended : (loop setting ceiling rounds progress asked).1 = (ended, .ok prediction)) :
    StaysAt setting frame base (visits setting rounds progress asked) ended.stack
      prediction.action := by
  induction rounds generalizing progress asked with
  | zero => cases hended
  | succ rounds ih =>
    have hvisit := h.visit hasker hempty asked
    have hiteration := iterate_iteration setting progress asked
    rcases hstep : iterate setting progress asked with ⟨⟨next, result⟩, asked'⟩
    rw [hstep] at hiteration
    obtain ⟨hgoesOn, hends⟩ := hiteration.asks hasker hempty h
    rw [loop_succ, hstep] at hended
    cases result with
    | none =>
      rw [visits_succ_none hstep]
      obtain ⟨hvisits, hlast⟩ := ih (hgoesOn rfl) hended
      exact ⟨List.forall_mem_append.mpr ⟨hvisit, hvisits⟩, hlast⟩
    | some result =>
      rw [visits_succ_some hstep]
      cases hended
      exact ⟨hvisit, hends prediction rfl⟩

/-! ## The end of a frame that did not ask -/

/-- From its start, a frame that asks comes to its branch first. -/
theorem Asker.starts (h : Asker setting frame slot)
    (hstack : progress.stack = { frame with stepId := startId } :: base) (asked : List Question) :
    (iterate setting progress asked).1 =
      (progress.advance ({ frame with stepId := "start" } :: base) [], none) := by
  have hat : At setting.catalog progress.stack { frame with stepId := startId } base
      Pattern.collectFlow (.start Pattern.collectFlow.firstId) :=
    at_start h.flow_eq h.isFlow rfl hstack
  rw [iterate_at hat]
  unfold interpret
  rw [Asking.bind_apply, Selection.nextNode_first, hstack]
  rfl

/-- If the slot is filled, a frame that asks ends from its branch. -/
theorem Asker.finishes (h : Asker setting frame slot) (hfills : progress.conversation.Fills slot)
    (hstack : progress.stack = { frame with stepId := "start" } :: base) (asked : List Question) :
    ∃ visit, visit? setting progress asked = some visit ∧ visit.Finishes := by
  have hat : At setting.catalog progress.stack { frame with stepId := "start" } base
      Pattern.collectFlow Pattern.start := ⟨hstack, h.isFlow, h.flow_eq, Pattern.node?_start⟩
  have hnext : (Selection.nextNode setting.services Pattern.start Pattern.collectFlow
      progress.stack progress.conversation asked).1 = some .finish := by
    rw [Pattern.nextNode_start, hstack, if_pos ((h.done_iff "start" base asked).mpr hfills)]
  exact ⟨_, visit?_at hat asked, _, call?_finish hat hnext⟩

/-- If the slot is filled, the rest of a turn from the start of a frame that asks ends the frame. -/
theorem Asker.not_staysAt (h : Asker setting frame slot) (hfills : progress.conversation.Fills slot)
    (hstack : progress.stack = { frame with stepId := startId } :: base) {ceiling rounds : Nat}
    {asked : List Question} {ended : Progress} {prediction : Prediction}
    (hended : (loop setting ceiling rounds progress asked).1 = (ended, .ok prediction))
    {after : Stack} {action : Option String} :
    ¬ StaysAt setting frame base (visits setting rounds progress asked) after action := by
  intro hstays
  cases rounds with
  | zero => cases hended
  | succ rounds =>
    have hstart := h.starts hstack asked
    rcases hstep : iterate setting progress asked with ⟨⟨next, result⟩, asked'⟩
    rw [hstep] at hstart
    cases hstart
    rw [loop_succ, hstep] at hended
    have hvisits := hstays.visits
    rw [visits_succ_none hstep] at hvisits
    cases rounds with
    | zero => cases hended
    | succ rounds =>
      let begun : Progress := progress.advance ({ frame with stepId := "start" } :: base) []
      have hbegun : begun.conversation.Fills slot := hfills
      obtain ⟨visit, hvisit, hfinishes⟩ := h.finishes hbegun rfl asked'
      have hmem : visit ∈ visits setting (rounds + 1) begun asked' := by
        rw [visits, hvisit]
        exact List.mem_cons_self
      exact (hvisits visit (List.mem_append_right _ hmem)).1 hfinishes

/-! ## Asking again -/

/-- Where the turn stands it interprets a collect step that asks before filling, for a slot that was
set already. -/
structure Recollects (setting : Setting) (progress : Progress) (asked : List Question) (step : Step)
    (slot : String) (utter : Option String) (rejections : List Rejection) : Prop where
  interprets : ∃ outcome, call? setting progress asked = some ⟨.step step, outcome⟩
  collects : ∃ resetAfterFlowEnds,
    step.task = .collect slot utter rejections true resetAfterFlowEnds
  wasSet : ∃ found, progress.conversation.slot? slot = some found ∧ found.wasSet = true

variable {step : Step} {utter : Option String} {rejections : List Rejection}

/-- Such a step sets the slot to its initial value and puts the frame that asks on the stack. -/
theorem Recollects.iterate {asked : List Question}
    (h : Recollects setting progress asked step slot utter rejections) :
    (iterate setting progress asked).1 = (progress.advance
      (Pattern.collectFrame slot (utter.getD (Interpreter.defaultUtter slot)) rejections ::
        progress.stack.moveTo step.id)
      [.slotSet slot (progress.conversation.initialValue slot)], none) := by
  obtain ⟨⟨outcome, hcall⟩, ⟨reset, htask⟩, found, hfound, hset⟩ := h
  obtain ⟨top, below, flow, current, hat⟩ := at_of_call? hcall
  have hcomes := interpret_comes hat asked
  rw [hcall] at hcomes
  have hagain : Interpreter.askAgain slot true progress.conversation =
      [.slotSet slot (progress.conversation.initialValue slot)] := by
    simp [Interpreter.askAgain, Conversation.initialValue, hfound, hset]
  rw [iterate_at hat]
  generalize (interpret setting flow current progress asked).1 = after at hcomes
  cases hcomes with
  | proceeded heffect =>
    cases heffect with
    | collected htask' =>
      cases htask.symm.trans htask'
      rw [hagain]
      rfl
    | skipped htask' | assigned htask' | branched htask' | linked htask' =>
      cases htask.symm.trans htask'
  | paused heffect =>
    cases heffect with
    | predicted htask' | generated htask' => cases htask.symm.trans htask'

/-- A turn that comes to a collect step which asks before filling, for a slot that was set already,
stays at the frame that asks, and ends there, exactly if the initial value of the slot is null or
the slot is that of the stack. -/
theorem asks_again_iff {declared : Catalog} (hcollect : declared.flow? Pattern.collectId = none)
    (actions : List String) {services : Services} (htells : services.TellsFilled slot)
    {ceiling n : Nat} {stack after : Stack} {asked log : List Question} {before : Progress}
    {prediction : Prediction}
    (hturn : (selectAction ⟨Pattern.addTo declared, actions, services⟩ ceiling stack conversation
      asked).1 = (after, .ok prediction))
    (hreached : iterations ⟨Pattern.addTo declared, actions, services⟩ n ⟨stack, conversation, []⟩
      asked = ((before, none), log))
    (hstep : Recollects ⟨Pattern.addTo declared, actions, services⟩ before log step slot utter
      rejections) :
    let setting : Setting := ⟨Pattern.addTo declared, actions, services⟩
    let frame := Pattern.collectFrame slot (utter.getD (Interpreter.defaultUtter slot)) rejections
    (StaysAt setting frame (before.stack.moveTo step.id)
        (visits setting (ceiling - n) before log).tail after prediction.action ↔
      before.conversation.initialValue slot = .null ∨ slot = Conversation.stackSlot) ∧
    (services.Verbatim → ∀ listen, Says setting frame Domain.listenAction listen →
      listen = Domain.listenAction) := by
  intro setting frame
  have hasker : Asker setting frame slot :=
    ⟨Pattern.flow?_addTo_of_mem Pattern.collectFlow_mem hcollect, ⟨rfl, rfl⟩, rfl, htells⟩
  refine ⟨?_, fun hverbatim listen ⟨log, hlisten⟩ => ?_⟩
  · obtain ⟨rounds, ended, hrounds, hloop, rfl⟩ := selectAction_rest hreached hturn
    have hnext := hstep.iterate
    rcases hiterate : iterate setting before log with ⟨⟨next, result⟩, log'⟩
    rw [hiterate] at hnext
    cases hnext
    rw [loop_succ, hiterate] at hloop
    -- the first of the visits is that of the collect step
    obtain ⟨top, below, flow, current, hat⟩ := at_of_call? hstep.interprets.choose_spec
    rw [hrounds, visits_succ_none hiterate, visit?_at hat]
    have hfills := before.conversation.fills_record slot (before.conversation.initialValue slot)
    by_cases hempty : before.conversation.initialValue slot = .null ∨
        slot = Conversation.stackSlot
    · refine iff_of_true (Progress.Asks.rest ⟨rfl, startId, Or.inl rfl, rfl, fun h => ?_⟩ hasker
        (fun hfilled => ?_) hloop) hempty
      · exact absurd h (by decide)
      · exact hempty.elim (hfills.mp hfilled).2 (hfills.mp hfilled).1
    · rw [not_or] at hempty
      exact iff_of_false (hasker.not_staysAt (hfills.mpr ⟨hempty.2, hempty.1⟩) rfl hloop)
        (not_or.mpr hempty)
  · rw [hverbatim.builtIn (by decide)] at hlisten
    exact (Except.ok.inj hlisten).symm

/-- The text of a catalog whose flow asks for a size, whether it is known or not. -/
def resizingText : String :=
  "\x7b\"flows\":[\x7b\"id\":\"resize\",\"steps\":[\x7b\"id\":\"ask\",\"type\":\"collect\"," ++
  "\"collect\":\"size\",\"ask_before_filling\":true\x7d,\x7b\"id\":\"done\",\"type\":\"action\"," ++
  "\"action\":\"utter_done\"\x7d]\x7d]\x7d"

/-- The catalog of that text. -/
def resizing : Catalog :=
  [.ofDeclared "resize" none
    [⟨"ask", .collect "size" none [] true true, []⟩, ⟨"done", .action (some "utter_done"), []⟩]]

/-- The turns of that flow. -/
abbrev resizingSetting : Setting :=
  ⟨Pattern.addTo resizing, ["utter_done", "utter_ask_size"] ++ Domain.builtIn, Templated.services⟩

/-- A conversation in which the size was set, with an initial value declared for it. -/
abbrev sized (initial : Json) : Conversation :=
  (Conversation.fresh "user" ⟨[], [], [("size", initial)]⟩).record (.slotSet "size" (.str "large"))

theorem tellsFilled_size : Templated.services.TellsFilled "size" :=
  Templated.tellsFilled_services (Template.namesSlot_of_isSlotName (by decide))

/-- The step that asks for the size. -/
abbrev askingSize : Step := ⟨"ask", .collect "size" none [] true true, [.always "done"]⟩

/-- Without an initial value the size is asked for again. -/
theorem size_asked_again :
    let frame := Pattern.collectFrame "size" "utter_ask_size" []
    let base : Stack := [⟨"resize", "ask", .regular, none⟩]
    let asking := { frame with stepId := "ask_collect" } :: base
    let begun : Progress := ⟨[.atStart "resize" .regular], sized .null, []⟩
    resizing.flow? Pattern.collectId = none ∧
    Templated.services.TellsFilled "size" ∧
    Recollects resizingSetting begun [] askingSize "size" none [] ∧
    (selectAction resizingSetting 9 begun.stack begun.conversation []).1 =
      (asking, .ok (.certain "utter_ask_size" [.slotSet "size" .null] none)) ∧
    StaysAt resizingSetting frame base (visits resizingSetting 9 begun []).tail asking
      (some "utter_ask_size") := by
  intro frame base asking begun
  have hcollect : resizing.flow? Pattern.collectId = none := by decide
  have hturn : (selectAction resizingSetting 9 begun.stack begun.conversation []).1 =
      (asking, .ok (.certain "utter_ask_size" [.slotSet "size" .null] none)) := by
    decide +kernel
  have hcall : call? resizingSetting begun [] =
      some ⟨.step askingSize, .proceed [.slotSet "size" .null]⟩ := by decide +kernel
  have hslot : begun.conversation.slot? "size" = some ⟨.null, .str "large", true⟩ := by
    decide +kernel
  have hstep : Recollects resizingSetting begun [] askingSize "size" none [] :=
    ⟨⟨_, hcall⟩, ⟨true, rfl⟩, _, hslot, rfl⟩
  have hagain := asks_again_iff hcollect _ tellsFilled_size hturn (n := 0) rfl hstep
  exact ⟨hcollect, tellsFilled_size, hstep, hturn, hagain.1.mpr (Or.inl rfl)⟩

/-- With an initial value the size is set back to it, and the flow goes on without asking. -/
theorem sized_not_asked_again :
    let frame := Pattern.collectFrame "size" "utter_ask_size" []
    let base : Stack := [⟨"resize", "ask", .regular, none⟩]
    let done : Stack := [⟨"resize", "done", .regular, none⟩]
    let begun : Progress := ⟨[.atStart "resize" .regular], sized (.str "medium"), []⟩
    Catalog.load resizingText = .ok resizing ∧
    resizing.flow? Pattern.collectId = none ∧
    Templated.services.TellsFilled "size" ∧
    Recollects resizingSetting begun [] askingSize "size" none [] ∧
    (selectAction resizingSetting 9 begun.stack begun.conversation []).1 =
      (done, .ok (.certain "utter_done" [.slotSet "size" (.str "medium")] none)) ∧
    ¬ StaysAt resizingSetting frame base (visits resizingSetting 9 begun []).tail done
      (some "utter_done") := by
  intro frame base done begun
  have hcall : call? resizingSetting begun [] =
      some ⟨.step askingSize, .proceed [.slotSet "size" (.str "medium")]⟩ := by decide +kernel
  have hslot : begun.conversation.slot? "size" =
      some ⟨.str "medium", .str "large", true⟩ := by decide +kernel
  refine ⟨by decide +kernel, by decide, tellsFilled_size,
    ⟨⟨_, hcall⟩, ⟨true, rfl⟩, _, hslot, rfl⟩, by decide +kernel, fun hstays => ?_⟩
  obtain ⟨stepId, hdone⟩ := hstays.ends.stack_eq
  have hlength : 1 = 2 := congrArg List.length hdone
  cases hlength

end Turn

end DialogueFlow
