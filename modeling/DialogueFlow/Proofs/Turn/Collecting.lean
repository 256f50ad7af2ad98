/-
  Asking for slots over a whole conversation. Between turns every frame at a collect step has the
  frame that asks for its slot directly above (`Course.settled`). Main statement:
  `course_collects`. In every turn of such a conversation a flow goes on from a collect step only
  when the slot is filled; and a turn that ends while a slot is asked for has the frame that waits
  directly below, predicts what the asking frame says, and asks for a slot that is not filled.
-/
import DialogueFlow.Proofs.Turn.Attendance
import DialogueFlow.Proofs.Turn.Ceiling
import DialogueFlow.Proofs.Turn.Persistence
import DialogueFlow.Proofs.Turn.Recognition

namespace DialogueFlow

/-- The step collects the slot. -/
def Step.Collects (step : Step) (slot : String) : Prop :=
  ∃ utter rejections askBeforeFilling resetAfterFlowEnds,
    step.task = .collect slot utter rejections askBeforeFilling resetAfterFlowEnds

namespace Frame

/-- The frame is at a collect step for the slot. -/
def WaitsFor (catalog : Catalog) (frame : Frame) (slot : String) : Prop :=
  frame.kind.isFlow = true ∧ ∃ flow step, catalog.flow? frame.flowId = some flow ∧
    flow.node? frame.stepId = some (.step step) ∧ step.Collects slot

/-- The frame has asked for the slot and is about to listen. -/
structure HasAsked (frame : Frame) (slot : String) : Prop where
  asks : frame.AsksFor slot
  cursor : frame.stepId = "ask_collect"

theorem HasAsked.not_start {frame : Frame} {slot : String} (h : frame.HasAsked slot) :
    frame.stepId ≠ startId := by
  rw [h.cursor]
  decide

theorem WaitsFor.awaited? {catalog : Catalog} {frame : Frame} {slot : String}
    (h : frame.WaitsFor catalog slot) :
    ∃ asking, frame.awaited? catalog = some asking ∧ asking.AsksFor slot := by
  obtain ⟨hkind, flow, step, hflow, hnode, utter, rejections, _, _, htask⟩ := h
  refine ⟨Pattern.collectFrame slot (utter.getD (Interpreter.defaultUtter slot)) rejections, ?_,
    rfl, rfl⟩
  rw [Frame.awaited?, if_pos hkind, hflow, Option.bind_some, hnode, Option.bind_some,
    Node.asking?, Step.asking?, htask]

theorem waitsFor_of_awaited? {catalog : Catalog} {frame asking : Frame} {slot : String}
    (h : frame.awaited? catalog = some asking) (hasks : asking.AsksFor slot) :
    frame.WaitsFor catalog slot := by
  obtain ⟨hkind, flow, step, hflow, hnode, hstep⟩ := awaited?_eq_some h
  refine ⟨hkind, flow, step, hflow, hnode, ?_⟩
  unfold Step.asking? at hstep
  split at hstep
  · rename_i asked utter rejections before reset htask
    cases hstep
    obtain rfl : asked = slot := Json.str.inj (Option.some.inj hasks.2)
    exact ⟨utter, rejections, before, reset, htask⟩
  · cases hstep

end Frame

namespace Pattern

/-- The steps of the flow that asks for a slot. -/
theorem step_collectFlow {step : Step} (hstep : step ∈ collectFlow.declared) :
    (step.id = "start" ∧ step.task = .branch) ∨
    (step.id = "ask_collect" ∧ step.task = .action (some "\x7b\x7b context.utter \x7d\x7d")) ∨
    (step.id = "listen" ∧ step.task = .action (some Domain.listenAction)) := by
  rw [declared_collectFlow] at hstep
  simp only [List.mem_cons, List.not_mem_nil, or_false] at hstep
  rcases hstep with rfl | rfl | rfl
  · exact Or.inl ⟨rfl, rfl⟩
  · exact Or.inr (Or.inl ⟨rfl, rfl⟩)
  · exact Or.inr (Or.inr ⟨rfl, rfl⟩)

/-- The step that asks names an action. -/
theorem task_ask {step : Step} (hstep : step ∈ collectFlow.declared)
    (hid : step.id = "ask_collect") :
    step.task = .action (some "\x7b\x7b context.utter \x7d\x7d") := by
  rcases step_collectFlow hstep with ⟨h, -⟩ | ⟨-, htask⟩ | ⟨h, -⟩
  · exact absurd (h.symm.trans hid) (by decide)
  · exact htask
  · exact absurd (h.symm.trans hid) (by decide)

end Pattern

namespace Interpreter.Effect

variable {setting : Setting} {flow : Flow} {stack after below : Stack} {top : Frame}
  {conversation : Conversation} {outcome : Outcome}

/-- Of the frames not at a start, a step changes none but the top one. -/
theorem suffix_of_step {step : Step}
    (h : Effect setting flow (top :: below) conversation (.step step) (.ok (outcome, after)))
    {frame : Frame} {rest : Stack} (hsuffix : (frame :: rest) <:+ after)
    (hframe : frame.stepId ≠ startId) : (frame :: rest) <:+ below ∨ frame = top := by
  have hcons : ∀ {other : Frame} {more : Stack}, (frame :: rest) <:+ other :: more →
      frame = other ∨ (frame :: rest) <:+ more := fun h =>
    (List.suffix_cons_iff.mp h).imp_left fun heq => (List.cons.inj heq).1
  cases h with
  | collected =>
    rcases hcons hsuffix with rfl | hsuffix
    · exact absurd rfl hframe
    · exact (hcons hsuffix).symm
  | linked =>
    rcases hcons hsuffix with rfl | hsuffix
    · exact Or.inr rfl
    · rcases hcons hsuffix with rfl | hsuffix
      · exact absurd rfl hframe
      · exact Or.inl hsuffix
  | predicted | skipped | assigned | branched | generated => exact (hcons hsuffix).symm

/-- Of the frames not at a start, the end of a flow leaves those below. -/
theorem suffix_of_finish (hstack : stack = top :: below)
    (h : Effect setting flow stack conversation .finish (.ok (outcome, after)))
    {frame : Frame} {rest : Stack} (hsuffix : (frame :: rest) <:+ after)
    (hframe : frame.stepId ≠ startId) : (frame :: rest) <:+ below := by
  rcases h.finish_cases hstack with rfl | ⟨added, rfl, hstart, -⟩
  · exact hsuffix
  · rcases List.suffix_cons_iff.mp hsuffix with heq | hsuffix
    · rw [(List.cons.inj heq).1] at hframe
      exact absurd hstart hframe
    · exact hsuffix

end Interpreter.Effect

namespace Turn

variable {setting : Setting} {origin stack rest : Stack} {top : Frame} {flow : Flow}
  {current node : Node} {conversation : Conversation} {asked : List Question} {slot : String}

/-! ## Frames that have asked -/

/-- Every frame that has asked for the slot did so with the same frames below in `origin`; or it
has asked just now, and the slot is not filled. -/
def Progress.Pending (origin : Stack) (slot : String) (progress : Progress) : Prop :=
  ∀ frame rest, (frame :: rest) <:+ progress.stack → frame.HasAsked slot →
    (frame :: rest) <:+ origin ∨
      progress.stack = frame :: rest ∧ ¬ progress.conversation.Fills slot

theorem Progress.pending_begin (stack : Stack) (slot : String) (conversation : Conversation)
    (events : List Event) : Progress.Pending stack slot ⟨stack, conversation, events⟩ :=
  fun _ _ hsuffix _ => Or.inl hsuffix

/-- Below the top, the frames that have asked did so in `origin`. -/
theorem Progress.Pending.of_below {progress : Progress} {below : Stack}
    (h : progress.Pending origin slot) (hstack : progress.stack = top :: below) {frame : Frame}
    (hsuffix : (frame :: rest) <:+ below) (hasked : frame.HasAsked slot) :
    (frame :: rest) <:+ origin := by
  rcases h frame rest (hstack ▸ hsuffix.trans (List.suffix_cons top below)) hasked with
    horigin | ⟨hwhole, -⟩
  · exact horigin
  · rw [hstack] at hwhole
    have hlength := hsuffix.length_le
    rw [← hwhole, List.length_cons] at hlength
    omega

/-- The asking flow comes to its asking step only while the slot is not filled. -/
theorem At.not_fills_of_ask (hcatalog : setting.catalog.Asking) {below : Stack}
    (hplaced : stack.Placed setting.catalog)
    (h : At setting.catalog stack top below flow current)
    (hnext : (Selection.nextNode setting.services current flow stack conversation asked).1 =
      some node) (hid : node.id = "ask_collect") (htells : setting.services.TellsFilled slot)
    (hasks : top.AsksFor slot) : ¬ conversation.Fills slot := by
  obtain ⟨-, -, hcurrent, -⟩ := h.hasCurrent hcatalog.executable hplaced
  obtain rfl := h.collectFlow hcatalog hasks.asked?
  rcases Pattern.next_collectFlow hcurrent hnext with ⟨rfl, -⟩ | ⟨-, hdone⟩ | ⟨h', -⟩ | h'
  · exact absurd hid (by decide)
  · rw [h.context_eq] at hdone
    intro hfills
    rw [(htells _ conversation asked hasks.2).mpr hfills] at hdone
    cases hdone
  · exact absurd (h'.symm.trans hid) (by decide)
  · exact absurd (h'.symm.trans hid) (by decide)

/-- The asking flow listens only after it asked. -/
theorem At.asked_of_listen (hcatalog : setting.catalog.Asking) {below : Stack}
    (hplaced : stack.Placed setting.catalog)
    (h : At setting.catalog stack top below flow current)
    (hnext : (Selection.nextNode setting.services current flow stack conversation asked).1 =
      some node) (hid : node.id = "listen") {asking : Frame} (hasked : top.asked? = some asking) :
    top.stepId = "ask_collect" := by
  obtain ⟨-, -, hcurrent, hcursor⟩ := h.hasCurrent hcatalog.executable hplaced
  obtain rfl := h.collectFlow hcatalog hasked
  rw [← hcursor]
  rcases Pattern.next_collectFlow hcurrent hnext with ⟨rfl, -⟩ | ⟨h', -⟩ | ⟨-, h'⟩ | h'
  · exact absurd hid (by decide)
  · exact absurd (h'.symm.trans hid) (by decide)
  · exact h'
  · exact absurd (h'.symm.trans hid) (by decide)

/-- An iteration after which the turn goes on. -/
theorem Iteration.pending (hcatalog : setting.catalog.Asking)
    (htells : setting.services.TellsFilled slot) {progress next : Progress}
    (hkept : progress.Kept setting) (hpending : progress.Pending origin slot)
    (h : Iteration setting progress (next, none)) : next.Pending origin slot := by
  cases h with
  | stalled => exact hpending
  | @proceeded top below flow current node asked events after hat hnext heffect =>
    intro frame rest hsuffix hasked
    obtain ⟨-, hflow, hcurrent, -⟩ := hat.hasCurrent hcatalog.executable hkept.placed
    by_cases hbelow : (frame :: rest) <:+ below
    · exact Or.inl (hpending.of_below hat.stack_eq hbelow hasked)
    rw [hat.moveTo_eq] at heffect
    rcases Selection.nextNode_some hflow hcurrent hnext with rfl | ⟨step, hstep, rfl, -⟩
    · exact absurd (heffect.suffix_of_finish rfl hsuffix hasked.not_start) hbelow
    · -- the top frame has just asked, and that changed neither the frames nor any slot
      obtain rfl := (heffect.suffix_of_step hsuffix hasked.not_start).resolve_left hbelow
      have hasks : top.AsksFor slot := hasked.asks
      have hempty := hat.not_fills_of_ask hcatalog hkept.placed hnext hasked.cursor htells hasks
      obtain rfl := hat.collectFlow hcatalog hasks.asked?
      have htask := Pattern.task_ask hstep hasked.cursor
      cases heffect with
      | skipped =>
        obtain rfl := (List.cons.inj ((List.suffix_cons_iff.mp hsuffix).resolve_right hbelow)).2
        exact Or.inr ⟨rfl, hempty⟩
      | collected h' | assigned h' | branched h' | linked h' =>
        rw [htask] at h'
        cases h'

/-! ## The end of a turn -/

/-- How a turn ends while the slot is asked for. -/
structure EndsAsking (setting : Setting) (origin : Stack) (slot : String) (top : Frame)
    (below : Stack) (conversation : Conversation) (action : Option String) : Prop where
  /-- The frame that waits is directly below. -/
  waits : ∃ waiting rest, below = waiting :: rest ∧ waiting.WaitsFor setting.catalog slot
  /-- What is predicted is what the frame says to ask, or to listen once it has asked. -/
  predicts : ∃ template name log, (top.stepId = "ask_collect" ∧
        template = "\x7b\x7b context.utter \x7d\x7d" ∨
      top.stepId = "listen" ∧ template = Domain.listenAction) ∧
    setting.services.evaluator.render log template
      (Condition.templateRoot (top.context.getD [])) = .ok name ∧
    name ∈ setting.actions ∧ action = some name
  /-- The slot is not filled, unless the frame had asked before the turn and now only listens. -/
  empty : ¬ conversation.Fills slot ∨
    top.stepId = "listen" ∧ ({ top with stepId := "ask_collect" } :: below) <:+ origin

/-- The iteration that ends a turn with a frame on top that asks for the slot. -/
theorem Iteration.endsAsking (hcatalog : setting.catalog.Asking)
    (htells : setting.services.TellsFilled slot) {progress ended : Progress} {below : Stack}
    {prediction : Prediction} (hkept : progress.Kept setting)
    (hpending : progress.Pending origin slot)
    (h : Iteration setting progress (ended, some (.ok prediction)))
    (hstack : ended.stack = top :: below) (hasks : top.AsksFor slot) :
    EndsAsking setting origin slot top below ended.conversation prediction.action := by
  obtain ⟨-, hattended, -⟩ := h.kept_end hcatalog hkept
  rw [hstack] at hattended
  have hwaiting := hattended.1.trans hasks.asked?
  obtain ⟨waiting, rest, hbelow, hawaits⟩ := Stack.awaited?_eq_some hwaiting
  have hwaits : waiting.WaitsFor setting.catalog slot := Frame.waitsFor_of_awaited? hawaits hasks
  cases h with
  | idle hidle =>
    -- the frame that asks is of a flow, so the turn is not over
    have hkind := hattended.kind_top hasks.asked?
    have hidle := hidle top below hstack
    rw [hkind] at hidle
    cases hidle
  | @paused asker rest' flow current node asked action metadata after hat hnext heffect =>
    obtain ⟨-, hflow, hcurrent, hid⟩ := hat.hasCurrent hcatalog.executable hkept.placed
    rw [hat.moveTo_eq] at heffect
    rcases Selection.nextNode_some hflow hcurrent hnext with rfl | ⟨step, hstep, rfl, -⟩
    · cases heffect
    have hsame : after = { asker with stepId := step.id } :: rest' := by
      cases heffect <;> rfl
    obtain ⟨rfl, rfl⟩ := List.cons.inj (hsame.symm.trans hstack)
    have hasker : asker.AsksFor slot := hasks
    obtain rfl := hat.collectFlow hcatalog hasker.asked?
    cases heffect with
    | generated htask =>
      rcases Pattern.step_collectFlow hstep with ⟨-, h⟩ | ⟨-, h⟩ | ⟨-, h⟩ <;> rw [h] at htask <;>
        cases htask
    | @predicted _ template _ log htask hrender hname =>
      have hsays : step.id = "ask_collect" ∧ template = "\x7b\x7b context.utter \x7d\x7d" ∨
          step.id = "listen" ∧ template = Domain.listenAction := by
        rcases Pattern.step_collectFlow hstep with ⟨-, h⟩ | ⟨hid, h⟩ | ⟨hid, h⟩ <;>
          rw [h] at htask <;> cases htask
        · exact Or.inl ⟨hid, rfl⟩
        · exact Or.inr ⟨hid, rfl⟩
      refine ⟨⟨waiting, rest, hbelow, hwaits⟩,
        ⟨template, action, log, hsays, hrender, hname, rfl⟩, ?_⟩
      rcases hsays with ⟨hask, -⟩ | ⟨hlisten, -⟩
      · exact Or.inl (hat.not_fills_of_ask hcatalog hkept.placed hnext hask htells hasker)
      · have hcursor := hat.asked_of_listen hcatalog hkept.placed hnext hlisten hasker.asked?
        rcases hpending asker rest' (hat.stack_eq ▸ List.suffix_refl _) ⟨hasker, hcursor⟩ with
          horigin | ⟨-, hempty⟩
        · refine Or.inr ⟨hlisten, ?_⟩
          rw [← hcursor]
          exact horigin
        · exact Or.inl hempty

/-! ## Whole turns -/

end Turn

/-- Between turns: the frames are placed and attended, and none on top waits. -/
structure Stack.Settled (catalog : Catalog) (stack : Stack) : Prop where
  placed : stack.Placed catalog
  attended : stack.Attended catalog
  free : stack.awaited? catalog = none

namespace Turn

variable {setting : Setting} {stack : Stack} {conversation : Conversation} {slot : String}

theorem Progress.kept_begin (h : stack.Settled setting.catalog) (conversation : Conversation) :
    Progress.Kept setting ⟨stack, conversation, []⟩ :=
  kept_of_awaited? h.placed h.attended h.free

/-- The working copy is the conversation with the events of the turn recorded. -/
theorem Iteration.recorded {progress : Progress}
    {outcome : Progress × Option (Except FlowError Prediction)}
    (hrecorded : progress.conversation = conversation.recordAll progress.events)
    (h : Iteration setting progress outcome) :
    outcome.1.conversation = conversation.recordAll outcome.1.events := by
  cases h with
  | proceeded | paused =>
    rw [Progress.advance, Conversation.recordAll_append, ← hrecorded]
  | _ => exact hrecorded

/-- A turn with a prediction ends with an iteration of a kept turn. -/
theorem selectAction_last {P : Progress → Prop}
    (hstep : ∀ progress next, P progress → Iteration setting progress (next, none) → P next)
    (hbegin : P ⟨stack, conversation, []⟩) {ceiling : Nat} {asked : List Question} {after : Stack}
    {prediction : Prediction} (h : (selectAction setting ceiling stack conversation asked).1 =
      (after, .ok prediction)) :
    ∃ before ended, P before ∧ Iteration setting before (ended, some (.ok prediction)) ∧
      ended.stack = after := by
  rw [selectAction_conclude] at h
  obtain ⟨-, hlast⟩ := iterations_cases hstep ceiling _ hbegin asked
  rcases hend : (iterations setting ceiling ⟨stack, conversation, []⟩ asked).1 with ⟨ended, result⟩
  rw [hend] at h hlast
  cases result with
  | none => cases h
  | some result =>
    cases h
    obtain ⟨before, hbefore, hiteration⟩ := hlast _ rfl
    exact ⟨before, ended, hbefore, hiteration, rfl⟩

/-- A turn with a prediction leaves the stack settled. -/
theorem selectAction_settled (hcatalog : setting.catalog.Asking)
    (hstack : stack.Settled setting.catalog) {ceiling : Nat} {asked : List Question}
    {after : Stack} {prediction : Prediction}
    (h : (selectAction setting ceiling stack conversation asked).1 = (after, .ok prediction)) :
    after.Settled setting.catalog := by
  obtain ⟨before, ended, hkept, hiteration, rfl⟩ := selectAction_last
    (P := Progress.Kept setting) (fun _ _ hkept hiteration => hiteration.kept hcatalog hkept)
    (Progress.kept_begin hstack conversation) h
  obtain ⟨hplaced, hattended, hfree⟩ := hiteration.kept_end hcatalog hkept
  exact ⟨hplaced, hattended, hfree⟩

/-- A turn that ends with a frame on top that asks for the slot. -/
theorem selectAction_endsAsking (hcatalog : setting.catalog.Asking)
    (htells : setting.services.TellsFilled slot) (hstack : stack.Settled setting.catalog)
    {ceiling : Nat} {asked : List Question} {top : Frame} {below : Stack}
    {prediction : Prediction} (h : (selectAction setting ceiling stack conversation asked).1 =
      (top :: below, .ok prediction)) (hasks : top.AsksFor slot) :
    EndsAsking setting stack slot top below (conversation.recordAll prediction.events)
      prediction.action := by
  have hstep : ∀ progress next,
      (progress.Kept setting ∧ progress.Pending stack slot ∧
        progress.conversation = conversation.recordAll progress.events) →
      Iteration setting progress (next, none) →
      next.Kept setting ∧ next.Pending stack slot ∧
        next.conversation = conversation.recordAll next.events :=
    fun _ _ ⟨hkept, hpending, hrecorded⟩ hiteration =>
      ⟨hiteration.kept hcatalog hkept, hiteration.pending hcatalog htells hkept hpending,
        hiteration.recorded hrecorded⟩
  obtain ⟨before, ended, ⟨hkept, hpending, hrecorded⟩, hiteration, htop⟩ :=
    selectAction_last hstep ⟨Progress.kept_begin hstack conversation,
      Progress.pending_begin stack slot conversation [], rfl⟩ h
  have hends := hiteration.endsAsking hcatalog htells hkept hpending htop hasks
  rw [hiteration.recorded hrecorded] at hends
  rw [hiteration.prediction_events]
  exact hends

/-! ## Whole conversations -/

/-- What a caller keeps after a turn: of one that failed, nothing. -/
def follow (stack : Stack) (conversation : Conversation) :
    Stack × Except FlowError Prediction → Stack × Conversation
  | (after, .ok prediction) => (after, conversation.recordAll prediction.events)
  | (_, .error _) => (stack, conversation)

/-- The stacks and conversations that are come to by pushing frames at the start of flows, by
recording events and by turns, in any order. -/
inductive Course (catalog : Catalog) : Stack → Conversation → Prop
  | begin (conversation : Conversation) : Course catalog [] conversation
  | push {stack : Stack} {conversation : Conversation} (h : Course catalog stack conversation)
      (flowId : String) (kind : FrameKind) (hflow : (catalog.flow? flowId).isSome) :
      Course catalog (stack.push (.atStart flowId kind)) conversation
  | record {stack : Stack} {conversation : Conversation} (h : Course catalog stack conversation)
      (events : List Event) : Course catalog stack (conversation.recordAll events)
  /-- What is available and the services may differ from turn to turn. -/
  | turn {stack after : Stack} {conversation kept : Conversation}
      (h : Course catalog stack conversation) (actions : List String) (services : Services)
      (ceiling : Nat) (asked : List Question)
      (hturn : follow stack conversation
        (selectAction ⟨catalog, actions, services⟩ ceiling stack conversation asked).1 =
          (after, kept)) :
      Course catalog after kept

theorem Course.settled {catalog : Catalog} (hcatalog : catalog.Asking)
    (h : Course catalog stack conversation) : stack.Settled catalog := by
  induction h with
  | begin => exact ⟨Stack.placed_nil catalog, trivial, rfl⟩
  | push _ flowId kind hflow ih =>
    exact ⟨ih.placed.push rfl hflow,
      Stack.attended_push ih.attended ih.free (Frame.asked?_atStart flowId kind),
      Stack.awaited?_start rfl⟩
  | record _ _ ih => exact ih
  | @turn stack after conversation kept _ actions services ceiling asked hturn ih =>
    rcases hran : (selectAction ⟨catalog, actions, services⟩ ceiling stack conversation asked).1
      with ⟨left, result⟩
    rw [hran] at hturn
    cases result with
    | error cause =>
      cases hturn
      exact ih
    | ok prediction =>
      cases hturn
      have hasking : (Setting.mk catalog actions services).catalog.Asking := hcatalog
      exact selectAction_settled hasking ih hran

/-- In every turn of a conversation over a loaded catalog, with services that tell whether the slot
is filled: wherever a flow is to go on from a collect step for the slot, the slot has a value other
than null; and a turn that ends with a frame on top that asks for the slot does so for the frame
directly below, as that frame says, and with the slot not filled. -/
theorem course_collects {text : String} {declared : Catalog}
    (hload : Catalog.load text = .ok declared)
    (hcollect : declared.flow? Pattern.collectId = none)
    (hcourse : Course (Pattern.addTo declared) stack conversation) (actions : List String)
    {services : Services} (htells : services.TellsFilled slot) (ceiling : Nat)
    (asked : List Question) :
    let setting : Setting := ⟨Pattern.addTo declared, actions, services⟩
    (∀ n progress top below,
      (iterations setting n ⟨stack, conversation, []⟩ asked).1 = (progress, none) →
      progress.stack = top :: below → top.WaitsFor setting.catalog slot →
      ∃ value, progress.conversation.value? slot = some value ∧ value ≠ .null) ∧
    ∀ prediction top below,
      (selectAction setting ceiling stack conversation asked).1 =
        (top :: below, .ok prediction) → top.AsksFor slot →
      EndsAsking setting stack slot top below (conversation.recordAll prediction.events)
        prediction.action := by
  intro setting
  have hcatalog : setting.catalog.Asking := Catalog.asking_of_load hload hcollect
  have hsettled : stack.Settled setting.catalog := hcourse.settled hcatalog
  refine ⟨fun n progress top below hreached hstack hwaits => ?_,
    fun prediction top below hturn hasks =>
      selectAction_endsAsking hcatalog htells hsettled hturn hasks⟩
  have hkept := (iterations_cases (P := Progress.Kept setting)
    (fun _ _ hkept hiteration => hiteration.kept hcatalog hkept) n _
    (Progress.kept_begin hsettled conversation) asked).1
  rw [hreached] at hkept
  obtain ⟨asking, hawaited, hasks⟩ := hwaits.awaited?
  have htop : progress.stack.awaited? setting.catalog = some asking := by
    rw [hstack, Stack.awaited?_cons, hawaited]
  exact ((hkept rfl).filled slot htells asking htop hasks).value?_ne_null

/-- The order flow asks for the size; once the user has told it, the flow goes on. -/
theorem order_course_collects :
    let setting : Setting :=
      ⟨Pattern.addTo Catalog.order, "utter_ask_size" :: Domain.builtIn, Templated.services⟩
    let conversation := Conversation.fresh "user" .empty
    let told := conversation.recordAll [.slotSet "size" (.str "large")]
    let order : Frame := ⟨"order", "size", .regular, none⟩
    let asking := { Pattern.collectFrame "size" "utter_ask_size" [] with stepId := "ask_collect" }
    let listening := { asking with stepId := "listen" }
    Catalog.load Catalog.orderText = .ok Catalog.order ∧
    Catalog.order.flow? Pattern.collectId = none ∧
    setting.services.TellsFilled "size" ∧
    Course setting.catalog [.atStart "order" .regular] conversation ∧
    Course setting.catalog [listening, order] told ∧
    (∃ prediction, (selectAction setting 9 [.atStart "order" .regular] conversation []).1 =
        ([asking, order], .ok prediction) ∧
      EndsAsking setting [.atStart "order" .regular] "size" asking [order]
        (conversation.recordAll prediction.events) prediction.action) ∧
    ∃ progress, (iterations setting 2 ⟨[listening, order], told, []⟩ []).1 = (progress, none) ∧
      progress.stack = [order] ∧
      ∃ value, progress.conversation.value? "size" = some value ∧ value ≠ .null := by
  intro setting conversation told order asking listening
  have hcollect : Catalog.order.flow? Pattern.collectId = none := by decide
  have htells : setting.services.TellsFilled "size" :=
    Templated.tellsFilled_services (Template.namesSlot_of_isSlotName (by decide))
  have hbegun : Course setting.catalog [.atStart "order" .regular] conversation :=
    .push (.begin conversation) "order" .regular (by decide)
  have hfirst : (selectAction setting 9 [.atStart "order" .regular] conversation []).1 =
      ([asking, order], .ok (.certain "utter_ask_size" [] none)) := by
    decide +kernel
  have hsecond : (selectAction setting 9 [asking, order] conversation []).1 =
      ([listening, order], .ok (.certain Domain.listenAction [] none)) := by
    decide +kernel
  have hasked : Course setting.catalog [asking, order] conversation :=
    hbegun.turn setting.actions setting.services 9 [] (by rw [hfirst]; rfl)
  have hlistens : Course setting.catalog [listening, order] conversation :=
    hasked.turn setting.actions setting.services 9 [] (by rw [hsecond]; rfl)
  have htold : Course setting.catalog [listening, order] told :=
    hlistens.record [.slotSet "size" (.str "large")]
  obtain ⟨-, hends⟩ :=
    course_collects Catalog.load_order hcollect hbegun setting.actions htells 9 []
  obtain ⟨hfilled, -⟩ :=
    course_collects Catalog.load_order hcollect htold setting.actions htells 9 []
  have hreached : (iterations setting 2 ⟨[listening, order], told, []⟩ []).1 =
      (⟨[order], told, []⟩, none) := by
    decide +kernel
  have hawaited : order.awaited? setting.catalog =
      some (Pattern.collectFrame "size" "utter_ask_size" []) := by
    decide +kernel
  have hwaits : order.WaitsFor setting.catalog "size" :=
    Frame.waitsFor_of_awaited? hawaited ⟨rfl, rfl⟩
  exact ⟨Catalog.load_order, hcollect, htells, hbegun, htold,
    ⟨_, hfirst, hends _ asking [order] hfirst ⟨rfl, rfl⟩⟩,
    _, hreached, rfl, hfilled 2 _ order [] hreached rfl hwaits⟩

end Turn

end DialogueFlow
