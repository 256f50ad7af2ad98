/-
  The calls of a turn: every node that it interprets, with what that came to. The events of the calls
  are the events of the turn, and the working copy is the conversation with these recorded
  (`loop_calls`). Main statement: `advance_accounts`. What a turn hands back is the events of its
  calls in order, then the stack if it changed; so a caller who records it has every slot as the
  turn left it.
-/
import DialogueFlow.Proofs.Conversation.Replay
import DialogueFlow.Proofs.Turn.Ceiling

namespace DialogueFlow.Turn

/-- A node that was interpreted, and what that came to. -/
structure Call where
  node : Node
  outcome : Outcome
  deriving DecidableEq, Repr

/-- The call that an iteration makes; none if it comes to no node, or if the node fails. -/
def call? (setting : Setting) (progress : Progress) (asked : List Question) : Option Call :=
  match progress.stack with
  | [] => none
  | top :: _ =>
    if top.kind.isFlow then
      match setting.catalog.flow? top.flowId with
      | none => none
      | some flow =>
        match flow.node? top.stepId with
        | none => none
        | some current =>
          let chosen := Selection.nextNode setting.services current flow progress.stack
            progress.conversation asked
          match chosen.1 with
          | none => none
          | some node =>
            let ran := Interpreter.run setting flow node (progress.stack.moveTo node.id)
              progress.conversation chosen.2
            match ran.1 with
            | .error _ => none
            | .ok (outcome, _) => some ⟨node, outcome⟩
    else none

/-- The calls of at most so many iterations, in order. -/
def calls (setting : Setting) : (rounds : Nat) → Progress → List Question → List Call
  | 0, _, _ => []
  | rounds + 1, progress, asked =>
    (call? setting progress asked).toList ++
      match iterate setting progress asked with
      | ((next, none), asked) => calls setting rounds next asked
      | ((_, some _), _) => []

/-- The events of calls, in order. -/
def eventsOf (calls : List Call) : List Event := calls.flatMap fun call => call.outcome.events

theorem eventsOf_append (first second : List Call) :
    eventsOf (first ++ second) = eventsOf first ++ eventsOf second :=
  List.flatMap_append

namespace Call

/-- The call sends a text that was made from a prompt. -/
def Generates (call : Call) : Prop :=
  ∃ step prompt config, call.node = .step step ∧ step.task = .generateResponse prompt config

/-- The turn goes on after the call. -/
def GoesOn (call : Call) : Prop := ∃ events, call.outcome = .proceed events

/-- A call that sends a text stops for that with the text; any other that stops does so for an action
that may be predicted, and nothing goes along with it. -/
structure Fair (actions : List String) (call : Call) : Prop where
  generates : call.Generates →
    ∃ metadata, call.outcome = .pause Domain.sendTextAction (some metadata)
  predicts : ¬ call.Generates → ∀ action metadata, call.outcome = .pause action metadata →
    action ∈ actions ∧ metadata = none

theorem not_generates {step : Step} {outcome : Outcome}
    (h : ∀ prompt config, step.task ≠ .generateResponse prompt config) :
    ¬ (mk (.step step) outcome).Generates := by
  rintro ⟨_, prompt, config, hstep, htask⟩
  cases hstep
  exact h prompt config htask

theorem fair_proceed {actions : List String} {node : Node} {events : List Event}
    (h : ¬ (mk node (.proceed events)).Generates) : (mk node (.proceed events)).Fair actions where
  generates := fun hgenerates => absurd hgenerates h
  predicts := by
    rintro - _ _ hpause
    cases hpause

end Call

end DialogueFlow.Turn

namespace DialogueFlow.Interpreter.Effect

open Turn (Call)

variable {setting : Setting} {flow : Flow} {stack after : Stack} {conversation : Conversation}

theorem fair {node : Node} {outcome : Outcome}
    (h : Effect setting flow stack conversation node (.ok (outcome, after))) :
    (Call.mk node outcome).Fair setting.actions := by
  cases h with
  | @generated step prompt config text htask =>
    exact ⟨fun _ => ⟨_, rfl⟩, fun hnot => absurd ⟨step, prompt, config, rfl, htask⟩ hnot⟩
  | predicted htask hrender hname =>
    refine ⟨fun hgenerates => absurd hgenerates (Call.not_generates (by simp [htask])), ?_⟩
    rintro - _ _ hpause
    cases hpause
    exact ⟨hname, rfl⟩
  | skipped htask => exact Call.fair_proceed (Call.not_generates (by simp [htask]))
  | collected htask => exact Call.fair_proceed (Call.not_generates (by simp [htask]))
  | assigned htask => exact Call.fair_proceed (Call.not_generates (by simp [htask]))
  | branched htask => exact Call.fair_proceed (Call.not_generates (by simp [htask]))
  | linked htask => exact Call.fair_proceed (Call.not_generates (by simp [htask]))
  | ended hstack =>
    refine Call.fair_proceed ?_
    rintro ⟨_, _, _, hnode, -⟩
    cases hnode

end DialogueFlow.Interpreter.Effect

namespace DialogueFlow.Turn

variable {setting : Setting}

/-! ## One iteration -/

/-- What an iteration gathers and applies are the events of its call. An iteration that ends the turn
without an error made a call that stops for an action, or none and waits; one after which the turn
goes on made no call that stops. -/
structure Accounts (setting : Setting) (progress : Progress) (call : Option Call)
    (after : Progress × Option (Except FlowError Prediction)) : Prop where
  fair : ∀ made ∈ call.toList, made.Fair setting.actions
  events : after.1.events = progress.events ++ eventsOf call.toList
  conversation : after.1.conversation = progress.conversation.recordAll (eventsOf call.toList)
  goesOn : after.2 = none → ∀ made ∈ call.toList, made.GoesOn
  ends : ∀ prediction, after.2 = some (.ok prediction) →
    call = none ∧ prediction = after.1.waiting ∨
      ∃ node action metadata, call = some ⟨node, .pause action metadata⟩ ∧
        prediction = .certain action after.1.events metadata

theorem accounts_none {progress : Progress} {result : Option (Except FlowError Prediction)}
    (h : ∀ prediction, result = some (.ok prediction) → prediction = progress.waiting) :
    Accounts setting progress none (progress, result) where
  fair := by simp
  events := by simp [eventsOf]
  conversation := rfl
  goesOn := by simp
  ends := fun prediction hresult => Or.inl ⟨rfl, h prediction hresult⟩

/-- What an iteration at a node comes to: the call that it makes, where the turn stands after it, and
its result if it ended. -/
inductive Comes (setting : Setting) (flow : Flow) (progress : Progress) :
    Option Call → Progress × Option (Except FlowError Prediction) → Prop
  | stalled : Comes setting flow progress none (progress, none)
  | failed {node : Node} {cause : FlowError}
      (heffect : Interpreter.Effect setting flow (progress.stack.moveTo node.id)
        progress.conversation node (.error cause)) :
      Comes setting flow progress none
        ({ progress with stack := progress.stack.moveTo node.id }, some (.error cause))
  | proceeded {node : Node} {events : List Event} {stack : Stack}
      (heffect : Interpreter.Effect setting flow (progress.stack.moveTo node.id)
        progress.conversation node (.ok (.proceed events, stack))) :
      Comes setting flow progress (some ⟨node, .proceed events⟩)
        (progress.advance stack events, none)
  | paused {node : Node} {action : String} {metadata : Option (Table Json)} {stack : Stack}
      (heffect : Interpreter.Effect setting flow (progress.stack.moveTo node.id)
        progress.conversation node (.ok (.pause action metadata, stack))) :
      Comes setting flow progress (some ⟨node, .pause action metadata⟩)
        (progress.advance stack [], some (.ok (.certain action (progress.events ++ []) metadata)))

theorem interpret_comes {progress : Progress} {top : Frame} {below : Stack} {flow : Flow}
    {current : Node} (hat : At setting.catalog progress.stack top below flow current)
    (asked : List Question) :
    Comes setting flow progress (call? setting progress asked)
      (interpret setting flow current progress asked).1 := by
  have hstack := hat.stack_eq
  unfold call? interpret
  rw [Asking.bind_apply]
  simp only [hstack, hat.isFlow, hat.flow_eq, hat.node_eq, if_true]
  cases hnext : (Selection.nextNode setting.services current flow (top :: below)
      progress.conversation asked).1 with
  | none => exact .stalled
  | some node =>
    generalize (Selection.nextNode setting.services current flow (top :: below)
      progress.conversation asked).2 = asked'
    have heffect := Interpreter.run_effect setting flow node (Stack.moveTo (top :: below) node.id)
      progress.conversation asked'
    dsimp only
    rw [Asking.bind_apply]
    rw [← hstack] at heffect ⊢
    cases hrun : (Interpreter.run setting flow node (progress.stack.moveTo node.id)
        progress.conversation asked').1 with
    | error cause => exact .failed (hrun ▸ heffect)
    | ok done =>
      rw [hrun] at heffect
      obtain ⟨outcome, stack⟩ := done
      cases outcome with
      | proceed events => exact .proceeded heffect
      | pause action metadata => exact .paused heffect

/-- A call is made for the top frame. -/
theorem at_of_call? {progress : Progress} {asked : List Question} {made : Call}
    (h : call? setting progress asked = some made) :
    ∃ top below flow current, At setting.catalog progress.stack top below flow current := by
  unfold call? at h
  split at h
  · cases h
  · rename_i top below hstack
    split at h
    · rename_i hkind
      split at h
      · cases h
      · rename_i flow hflow
        split at h
        · cases h
        · rename_i current hnode
          exact ⟨top, below, flow, current, hstack, hkind, hflow, hnode⟩
    · cases h

/-- The node that is interpreted is the next one. -/
theorem nextNode_of_call? {progress : Progress} {top : Frame} {below : Stack} {flow : Flow}
    {current : Node} (hat : At setting.catalog progress.stack top below flow current)
    {asked : List Question} {made : Call} (h : call? setting progress asked = some made) :
    (Selection.nextNode setting.services current flow progress.stack progress.conversation
      asked).1 = some made.node := by
  have hstack := hat.stack_eq
  unfold call? at h
  simp only [hstack, hat.isFlow, hat.flow_eq, hat.node_eq, if_true] at h
  rw [hstack]
  split at h
  · cases h
  · rename_i node hnode
    split at h
    · cases h
    · cases h
      exact hnode

/-- The call of an iteration that comes to the end of a flow. -/
theorem call?_finish {top : Frame} {below : Stack} {flow : Flow} {current : Node} {progress : Progress}
    (hat : At setting.catalog progress.stack top below flow current) {asked : List Question}
    (hnext : (Selection.nextNode setting.services current flow progress.stack
      progress.conversation asked).1 = some .finish) :
    call? setting progress asked =
      some ⟨.finish, .proceed (Pattern.resets flow progress.conversation)⟩ := by
  have hstack := hat.stack_eq
  rw [hstack] at hnext
  unfold call?
  simp only [hstack, hat.isFlow, hat.flow_eq, hat.node_eq, if_true, hnext]
  rfl

/-- The account of an iteration that comes to a node. -/
theorem Comes.accounts {flow : Flow} {progress : Progress} {call : Option Call}
    {after : Progress × Option (Except FlowError Prediction)}
    (h : Comes setting flow progress call after) : Accounts setting progress call after := by
  have hevents : ∀ node outcome, eventsOf [Call.mk node outcome] = outcome.events :=
    fun _ _ => List.flatMap_singleton _ _
  cases h with
  | stalled => exact accounts_none (by simp)
  | failed => exact ⟨by simp, by simp [eventsOf], rfl, by simp, by simp⟩
  | proceeded heffect =>
    refine ⟨?_, ?_, ?_, ?_, ?_⟩
    · simpa using heffect.fair
    · simp [Progress.advance, hevents, Outcome.events]
    · simp [Progress.advance, hevents, Outcome.events]
    · simp [Call.GoesOn]
    · simp
  | paused heffect =>
    refine ⟨?_, ?_, ?_, ?_, ?_⟩
    · simpa using heffect.fair
    · simp [Progress.advance, hevents, Outcome.events]
    · simp [Progress.advance, hevents, Outcome.events]
    · simp
    · simp [Progress.advance]

/-- A turn that halts makes no call. -/
theorem Halts.call?_eq {progress : Progress} {result : Except FlowError Prediction}
    (h : Halts setting.catalog progress result) (asked : List Question) :
    call? setting progress asked = none := by
  unfold call?
  cases h with
  | idle hidle =>
    cases hstack : progress.stack with
    | nil => rfl
    | cons top below =>
      have hkind := hidle top below hstack
      simp only [hkind, Bool.false_eq_true, if_false]
  | unknownFlow hstack hkind hflow => simp only [hstack, hkind, hflow, if_true]
  | unknownStep hstack hkind hflow hnode => simp only [hstack, hkind, hflow, hnode, if_true]

theorem iterate_accounts (setting : Setting) (progress : Progress) (asked : List Question) :
    Accounts setting progress (call? setting progress asked)
      (iterate setting progress asked).1 := by
  rcases at_or_halts setting.catalog progress with
    ⟨top, below, flow, current, hat⟩ | ⟨result, hhalts⟩
  · rw [iterate_at hat]
    exact (interpret_comes hat asked).accounts
  · rw [hhalts.iterate_eq, hhalts.call?_eq]
    refine accounts_none fun prediction hresult => ?_
    cases hhalts with
    | idle =>
      cases hresult
      rfl
    | unknownFlow | unknownStep => cases hresult

/-! ## Whole turns -/

theorem calls_succ_none {progress next : Progress} {asked asked' : List Question}
    (h : iterate setting progress asked = ((next, none), asked')) (rounds : Nat) :
    calls setting (rounds + 1) progress asked =
      (call? setting progress asked).toList ++ calls setting rounds next asked' := by
  rw [calls, h]

theorem calls_succ_some {progress next : Progress} {result : Except FlowError Prediction}
    {asked asked' : List Question}
    (h : iterate setting progress asked = ((next, some result), asked')) (rounds : Nat) :
    calls setting (rounds + 1) progress asked = (call? setting progress asked).toList := by
  rw [calls, h, List.append_nil]

/-- How calls end a turn with a prediction: the last one stops for its action, or none stops and the
turn waits. -/
inductive Closes : List Call → Prediction → Prop
  | waiting {made : List Call} {events : List Event} (hgoesOn : ∀ call ∈ made, call.GoesOn) :
      Closes made (.certain Domain.listenAction events none)
  | paused (before : List Call) (node : Node) (action : String) (events : List Event)
      (metadata : Option (Table Json)) :
      Closes (before ++ [⟨node, .pause action metadata⟩]) (.certain action events metadata)

theorem Closes.prepend {first made : List Call} {prediction : Prediction}
    (hfirst : ∀ call ∈ first, call.GoesOn) (h : Closes made prediction) :
    Closes (first ++ made) prediction := by
  cases h with
  | waiting hgoesOn =>
    refine .waiting fun call hcall => ?_
    rcases List.mem_append.mp hcall with hcall | hcall
    · exact hfirst call hcall
    · exact hgoesOn call hcall
  | paused before node action events metadata =>
    rw [← List.append_assoc]
    exact .paused (first ++ before) node action events metadata

/-- The iterations of a turn gather the events of their calls and apply them to the working copy; a
prediction has all of them. -/
theorem loop_calls (ceiling rounds : Nat) (progress : Progress) (asked : List Question) :
    let made := calls setting rounds progress asked
    let ended := (loop setting ceiling rounds progress asked).1
    (∀ call ∈ made, call.Fair setting.actions) ∧
    ended.1.events = progress.events ++ eventsOf made ∧
    ended.1.conversation = progress.conversation.recordAll (eventsOf made) ∧
    ∀ prediction, ended.2 = .ok prediction →
      prediction.events = ended.1.events ∧ Closes made prediction := by
  induction rounds generalizing progress asked with
  | zero => exact ⟨by simp [calls], by simp [loop, calls, eventsOf], rfl, by simp [loop]⟩
  | succ rounds ih =>
    have haccounts := iterate_accounts setting progress asked
    rw [loop_succ]
    rcases hstep : iterate setting progress asked with ⟨⟨next, result⟩, asked'⟩
    rw [hstep] at haccounts
    obtain ⟨hfair, hevents, hconversation, hgoesOn, hends⟩ := haccounts
    cases result with
    | none =>
      obtain ⟨hrestFair, hrestEvents, hrestConversation, hrestEnds⟩ := ih next asked'
      rw [calls_succ_none hstep]
      refine ⟨?_, ?_, ?_, ?_⟩
      · intro call hcall
        rcases List.mem_append.mp hcall with hcall | hcall
        · exact hfair call hcall
        · exact hrestFair call hcall
      · dsimp only
        rw [hrestEvents, hevents, eventsOf_append, List.append_assoc]
      · dsimp only
        rw [hrestConversation, hconversation, eventsOf_append, Conversation.recordAll_append]
      · intro prediction hprediction
        obtain ⟨hsame, hcloses⟩ := hrestEnds prediction hprediction
        exact ⟨hsame, hcloses.prepend (hgoesOn rfl)⟩
    | some result =>
      rw [calls_succ_some hstep]
      refine ⟨hfair, hevents, hconversation, fun prediction hprediction => ?_⟩
      rcases hends prediction (congrArg some hprediction) with
        ⟨hnone, heq⟩ | ⟨node, action, metadata, hcall, heq⟩
      · rw [hnone, heq]
        exact ⟨rfl, .waiting (by simp)⟩
      · rw [hcall, heq]
        exact ⟨rfl, .paused [] node action _ metadata⟩

/-! ## What a turn hands back -/

/-- A turn with a prediction stopped for a text exactly if something goes along with the prediction,
and the predicted action is available. -/
theorem Closes.predicts {actions : List String} (hlisten : Domain.listenAction ∈ actions)
    (hsend : Domain.sendTextAction ∈ actions) {made : List Call} {prediction : Prediction}
    (hfair : ∀ call ∈ made, call.Fair actions) (h : Closes made prediction) :
    prediction.confidence = 1.0 ∧ (∃ action ∈ actions, prediction.action = some action) ∧
    (prediction.metadata.isSome ↔ ∃ step prompt config, step.task = .generateResponse prompt config ∧
      made.getLast? = some ⟨.step step, .pause Domain.sendTextAction prediction.metadata⟩) := by
  cases h with
  | waiting hgoesOn =>
    refine ⟨rfl, ⟨_, hlisten, rfl⟩, by simp [Prediction.certain], ?_⟩
    rintro ⟨step, prompt, config, -, hlast⟩
    obtain ⟨events, hevents⟩ := hgoesOn _ (List.mem_of_getLast? hlast)
    cases hevents
  | paused before node action events metadata =>
    have hcall := hfair ⟨node, .pause action metadata⟩ (by simp)
    rw [List.getLast?_concat]
    by_cases hgenerates : (Call.mk node (.pause action metadata)).Generates
    · obtain ⟨text, htext⟩ := hcall.generates hgenerates
      obtain ⟨step, prompt, config, rfl, htask⟩ := hgenerates
      cases htext
      exact ⟨rfl, ⟨_, hsend, rfl⟩, fun _ => ⟨step, prompt, config, htask, rfl⟩, fun _ => rfl⟩
    · obtain ⟨haction, rfl⟩ := hcall.predicts hgenerates action metadata rfl
      refine ⟨rfl, ⟨_, haction, rfl⟩, by simp [Prediction.certain], ?_⟩
      rintro ⟨step, prompt, config, htask, hlast⟩
      cases hlast
      exact absurd ⟨step, prompt, config, rfl, htask⟩ hgenerates

theorem persisting_eq (before after : Stack) (prediction : Prediction) :
    persisting before after prediction = { prediction with
      events := prediction.events ++
        if after.toJson = before.toJson then [] else [after.persist] } := by
  unfold persisting
  split
  · rw [List.append_nil]
  · rfl

/-- A turn from a stack with frames that hands back a prediction hands back the events of its calls in
order, and then the stack exactly if it is written differently from the one read. The prediction is
certain, its action is available, and something goes along with it exactly if the turn stopped for
a text. With its events recorded, every slot but that of the stack is as in the working copy. -/
theorem advance_accounts {conversation : Conversation} {domain : Domain} {catalog : Catalog}
    {services : Services} {ceiling : Nat} {asked : List Question} {stack : Stack}
    {prediction : Prediction} (hstack : Stack.ofConversation conversation = .ok stack)
    (hframes : stack ≠ [])
    (h : (advance conversation domain catalog services ceiling asked).1 = .ok prediction) :
    let setting : Setting := ⟨catalog, domain.actionNames, services⟩
    let start : Progress := ⟨stack, conversation, []⟩
    let made := calls setting ceiling start asked
    let ended := (loop setting ceiling ceiling start asked).1.1
    prediction.events = eventsOf made ++
      (if ended.stack.toJson = stack.toJson then []
        else [.slotSet Conversation.stackSlot ended.stack.toJson]) ∧
    prediction.confidence = 1.0 ∧
    (∃ action ∈ domain.actionNames, prediction.action = some action) ∧
    (prediction.metadata.isSome ↔ ∃ step prompt config, step.task = .generateResponse prompt config ∧
      made.getLast? = some ⟨.step step, .pause Domain.sendTextAction prediction.metadata⟩) ∧
    ∀ name ≠ Conversation.stackSlot,
      (conversation.recordAll prediction.events).slot? name = ended.conversation.slot? name := by
  intro setting start made ended
  obtain ⟨hfair, hevents, hconversation, hends⟩ :=
    @loop_calls setting ceiling ceiling start asked
  rw [advance_apply hstack hframes] at h
  cases hplain : (loop setting ceiling ceiling start asked).1.2 with
  | error cause =>
    dsimp only at h
    rw [hplain] at h
    cases h
  | ok plain =>
    dsimp only at h
    rw [hplain] at h
    cases h
    obtain ⟨hsame, hcloses⟩ := hends plain hplain
    have hbuiltIn : ∀ name ∈ Domain.builtIn, name ∈ setting.actions := fun name hname =>
      (domain.mem_actionNames name).mpr (by simp [hname])
    obtain ⟨hconfidence, haction, hmetadata⟩ := hcloses.predicts (hbuiltIn _ (by decide))
      (hbuiltIn _ (by decide)) hfair
    have hplainEvents : plain.events = eventsOf made := hsame.trans hevents
    rw [persisting_eq]
    refine ⟨?_, hconfidence, haction, hmetadata, fun name hname => ?_⟩
    · rw [← hplainEvents]
      rfl
    · have hspare : ∀ stack : Stack, stack.persist.assigned? name = none :=
        fun stack => if_neg (Ne.symm hname)
      show _ = ended.conversation.slot? name
      rw [hconversation, ← hplainEvents]
      split
      · rw [List.append_nil]
      · rw [Conversation.recordAll_append]
        exact Conversation.slot?_record (hspare _)

/-- A catalog whose one flow sets a slot and then sends a text. -/
def greeting : Catalog :=
  [.ofDeclared "greet" none [⟨"set", .setSlots [⟨"name", .str "Ada"⟩], []⟩,
    ⟨"say", .generateResponse "Hello" none, []⟩]]

theorem greeting_turn_accounts :
    let stack : Stack := [.atStart "greet" .regular]
    let said : Stack := [⟨"greet", "say", .regular, none⟩]
    let conversation := (Conversation.fresh "user" .empty).record stack.persist
    let prediction := Prediction.certain Domain.sendTextAction
      [.slotSet "name" (.str "Ada"), said.persist] (some (Interpreter.textMetadata (.ok "Hello")))
    (advance conversation .empty greeting Templated.services 9 []).1 = .ok prediction ∧
    prediction.metadata.isSome = true ∧
    (conversation.recordAll prediction.events).slot? "name" = some ⟨.null, .str "Ada", true⟩ := by
  intro stack said conversation prediction
  have hstack : Stack.ofConversation conversation = .ok stack := by decide +kernel
  have hturn : (advance conversation .empty greeting Templated.services 9 []).1 =
      .ok prediction := by decide +kernel
  obtain ⟨-, -, -, hmetadata, hslots⟩ := advance_accounts hstack (by decide) hturn
  have hlast : (calls ⟨greeting, Domain.empty.actionNames, Templated.services⟩ 9
      ⟨stack, conversation, []⟩ []).getLast? =
        some ⟨.step ⟨"say", .generateResponse "Hello" none, [.always endId]⟩,
          .pause Domain.sendTextAction prediction.metadata⟩ := by decide +kernel
  exact ⟨hturn, hmetadata.mpr ⟨_, _, _, rfl, hlast⟩,
    (hslots "name" (by decide)).trans (by decide +kernel)⟩

end DialogueFlow.Turn
