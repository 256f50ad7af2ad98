/-
  The way back into an interrupted flow. An interrupting frame is followed through committed turns:
  it stays on the frames of the flows that it linked to, and these on the frames that it interrupted
  (`Trace.holds`). When its flow ends, the prompt names the nearest flow of a user below, and a flow
  that it linked to is nearer than the one it interrupted. `continued_flow_iff`: the prompt names
  the interrupted flow exactly if the interrupting one linked to none, or to one of that name last.
-/
import DialogueFlow.Proofs.Turn.Placement
import DialogueFlow.Proofs.Turn.Visits

namespace DialogueFlow

namespace Turn

variable {catalog : Catalog}

/-! ## Committed turns -/

/-- The visits of the turn of a conversation; none where no stack can be read. -/
def visitsOf (conversation : Conversation) (domain : Domain) (catalog : Catalog)
    (services : Services) (ceiling : Nat) (asked : List Question) : List Visit :=
  match Stack.ofConversation conversation with
  | .error _ => []
  | .ok stack =>
    visits ⟨catalog, domain.actionNames, services⟩ ceiling ⟨stack, conversation, []⟩ asked

/-- Turns in a row from a stack, each committed: all their visits, and the conversation after them. No
frame is pushed in between, but other slots may be set and messages arrive. -/
inductive Committed (catalog : Catalog) (first : Stack) : List Visit → Conversation → Prop
  | begin {conversation : Conversation} (hstack : Stack.ofConversation conversation = .ok first) :
      Committed catalog first [] conversation
  | record {seen : List Visit} {conversation : Conversation}
      (h : Committed catalog first seen conversation) (events : List Event)
      (hspare : Event.Spare Conversation.stackSlot events) :
      Committed catalog first seen (conversation.recordAll events)
  /-- What is available and the services may differ from turn to turn. The commit has to keep the
  stack, which it always does where no step writes the slot of the stack. -/
  | turn {seen : List Visit} {conversation : Conversation} {prediction : Prediction}
      (h : Committed catalog first seen conversation) (domain : Domain) (services : Services)
      (ceiling : Nat) (asked : List Question)
      (hturn : (advance conversation domain catalog services ceiling asked).1 = .ok prediction)
      (hkept : Stack.ofConversation (conversation.recordAll prediction.committed) =
        .ok (leftBehind conversation domain catalog services ceiling asked)) :
      Committed catalog first
        (seen ++ visitsOf conversation domain catalog services ceiling asked)
        (conversation.recordAll prediction.committed)

/-- Events that spare the slot of the stack leave the stack as it is. -/
theorem ofConversation_spare {events : List Event}
    (h : Event.Spare Conversation.stackSlot events) (conversation : Conversation) :
    Stack.ofConversation (conversation.recordAll events) = Stack.ofConversation conversation := by
  rw [ofConversation_recordAll, Event.lastAssigned?_eq_none_iff.mpr h]
  rfl

theorem turn_trace {conversation : Conversation} {stack : Stack}
    (hstack : Stack.ofConversation conversation = .ok stack) (domain : Domain) (catalog : Catalog)
    (services : Services) (ceiling : Nat) (asked : List Question) :
    Trace catalog stack (visitsOf conversation domain catalog services ceiling asked)
      (leftBehind conversation domain catalog services ceiling asked) := by
  let setting : Setting := ⟨catalog, domain.actionNames, services⟩
  unfold visitsOf leftBehind
  rw [hstack]
  exact @selectAction_trace setting ceiling stack conversation asked

/-- The visits of committed turns lead from the first stack to the one that is read after them. -/
theorem Committed.trace {first : Stack} {seen : List Visit} {conversation : Conversation}
    (h : Committed catalog first seen conversation) :
    ∃ last, Stack.ofConversation conversation = .ok last ∧ Trace catalog first seen last := by
  induction h with
  | begin hstack => exact ⟨first, hstack, .done first⟩
  | record _ events hspare ih =>
    obtain ⟨last, hlast, htrace⟩ := ih
    exact ⟨last, (ofConversation_spare hspare _).trans hlast, htrace⟩
  | turn _ domain services ceiling asked _ hkept ih =>
    obtain ⟨last, hlast, htrace⟩ := ih
    exact ⟨_, hkept, htrace.append (turn_trace hlast domain catalog services ceiling asked)⟩

/-! ## The flows that a frame linked to -/

/-- The flows that the link steps of a frame on `base` others named in these visits, the latest first;
none once the flow of the frame has ended. -/
def linksOf (base : Nat) (seen : List Visit) : Option (List String) :=
  seen.foldlM (Visit.linksAfter base) []

theorem linksOf_concat {base : Nat} {past : List Visit} {linked : List String}
    (h : linksOf base past = some linked) (visit : Visit) :
    linksOf base (past ++ [visit]) = visit.linksAfter base linked := by
  unfold linksOf at h ⊢
  rw [List.foldlM_append, h]
  cases hlast : visit.linksAfter base linked <;> simp [hlast]

theorem Trace.holds {frame : Frame} {linked linked' : List String} {below stack last : Stack}
    {seen : List Visit} (h : Trace catalog stack seen last)
    (hholds : stack.Holds frame linked below)
    (hlinks : seen.foldlM (Visit.linksAfter below.length) linked = some linked') :
    last.Holds frame linked' below := by
  induction h generalizing linked with
  | done =>
    cases hlinks
    exact hholds
  | visit hvisit _ ih =>
    rw [List.foldlM_cons] at hlinks
    obtain ⟨between, hbetween, hrest⟩ := Option.bind_eq_some_iff.mp hlinks
    exact ih (hvisit.holds hholds hbetween) hrest

/-- A visit that ends a frame finds it on top of the flows that it linked to. -/
theorem Committed.ending {frame : Frame} {below : Stack} {past rest : List Visit} {ending : Visit}
    {conversation : Conversation} {linked : List String}
    (h : Committed catalog (frame :: below) (past ++ ending :: rest) conversation)
    (hpast : linksOf below.length past = some linked)
    (hends : linksOf below.length (past ++ [ending]) = none) :
    ending.Obeys catalog ∧ ending.Finishes ∧
      ∃ stepId, ending.before = { frame with stepId } :: (Stack.linkFrames linked ++ below) := by
  obtain ⟨last, -, htrace⟩ := h.trace
  obtain ⟨middle, hearlier, hlater⟩ := htrace.split
  have hfirst : Stack.Holds (frame :: below) frame [] below := ⟨[], frame.stepId, rfl⟩
  have hmiddle := hearlier.holds hfirst hpast
  rw [linksOf_concat hpast] at hends
  cases hlater with
  | visit hvisit _ => exact ⟨hvisit, Visit.Obeys.finishes hmiddle hends⟩

/-! ## Which flow the prompt names -/

/-- The name of the nearest flow of a user. -/
def userFlowName? (stack : Stack) (catalog : Catalog) : Option String :=
  (stack.userFlow? catalog).map Flow.readableName

/-- The latest flow that was linked to is nearer than all flows below. -/
theorem userFlowName?_linkFrames (linked : List String) (below : Stack) (catalog : Catalog) :
    userFlowName? (Stack.linkFrames linked ++ below) catalog =
      match linked with
      | [] => userFlowName? below catalog
      | id :: _ => (catalog.flow? id).map Flow.readableName := by
  cases linked <;> rfl

theorem continueFrame_inj {first second : String}
    (h : Pattern.continueFrame first = Pattern.continueFrame second) : first = second := by
  simpa [Pattern.continueFrame] using h

/-- The prompt that follows the end of a flow names the nearest flow of a user below. -/
theorem userFlowName?_of_continued {ended : Frame} {below : Stack} {name : String}
    (h : Pattern.afterLast ended (Pattern.afterInterrupt ended below catalog) catalog =
      below.push (Pattern.continueFrame name)) : userFlowName? below catalog = some name := by
  rcases Pattern.patterns_cases ended below catalog with
    hsame | ⟨-, flow, hflow, hpushed⟩ | ⟨-, -, hlast⟩
  · exact absurd (hsame.symm.trans h).symm (List.cons_ne_self _ _)
  · have hname := continueFrame_inj (List.cons.inj (hpushed.symm.trans h)).1
    rw [userFlowName?, hflow, Option.map_some, hname]
  · have hframe : Pattern.completedId = Pattern.continueId :=
      congrArg Frame.flowId (List.cons.inj (hlast.symm.trans h)).1
    exact absurd hframe (by decide)

/-- An interrupting flow that linked to another is followed by the prompt for that. -/
theorem continued_of_linked {ended : Frame} (hkind : ended.kind = .interrupt) {id : String}
    {flow : Flow} (hflow : catalog.flow? id = some flow) (linked : List String) (below : Stack) :
    let under := Stack.linkFrames (id :: linked) ++ below
    Pattern.afterLast ended (Pattern.afterInterrupt ended under catalog) catalog =
      under.push (Pattern.continueFrame flow.readableName) := by
  intro under
  have huser : under.userFlow? catalog = some flow := hflow
  have hnode : under.userNode? catalog = some (.start flow.firstId) := by
    show (catalog.flow? id).bind (·.node? startId) = _
    rw [hflow, Option.bind_some, Flow.node?_startId]
  exact Pattern.patterns_of_resumed hkind huser hnode (Node.start_goesOn _)

/-- An interrupting frame whose flow ends in a row of committed turns leaves the frames of the flows
that it linked to on those that it interrupted. If a prompt is pushed, it names the interrupted flow
exactly if the interrupting one linked to no flow, or last to one of that name; and after a link it
always names the flow of the last. -/
theorem continued_flow_iff {interrupt : Frame} {base : Stack} {past rest : List Visit}
    {ending : Visit} {conversation : Conversation} {linked : List String}
    (hrun : Committed catalog (interrupt :: base) (past ++ ending :: rest) conversation)
    (hpast : linksOf base.length past = some linked)
    (hends : linksOf base.length (past ++ [ending]) = none) :
    let under := Stack.linkFrames linked ++ base
    (∃ stepId, ending.before = { interrupt with stepId } :: under) ∧
    (∀ name, ending.after = under.push (Pattern.continueFrame name) →
      (userFlowName? base catalog = some name ↔ ∀ id, linked.head? = some id →
        userFlowName? base catalog = (catalog.flow? id).map Flow.readableName)) ∧
    ∀ id flow, linked.head? = some id → catalog.flow? id = some flow →
      interrupt.kind = .interrupt →
        ending.after = under.push (Pattern.continueFrame flow.readableName) := by
  intro under
  obtain ⟨hobeys, hfinishes, stepId, hbefore⟩ := hrun.ending hpast hends
  have hafter : ending.after =
      Pattern.afterLast interrupt (Pattern.afterInterrupt interrupt under catalog) catalog := by
    obtain ⟨before, call, after⟩ := ending
    obtain ⟨outcome, hcall⟩ := hfinishes
    obtain rfl : call = _ := hcall
    cases hobeys with
    | ended =>
      obtain ⟨rfl, rfl⟩ := List.cons.inj hbefore
      exact Pattern.patterns_moved interrupt stepId under catalog
  refine ⟨⟨stepId, hbefore⟩, fun name hpushed => ?_, fun id flow hhead hflow hkind => ?_⟩
  · have hname : userFlowName? under catalog = some name :=
      userFlowName?_of_continued (hafter.symm.trans hpushed)
    rw [userFlowName?_linkFrames] at hname
    cases linked with
    | nil => exact ⟨fun _ _ hnone => (nomatch hnone), fun _ => hname⟩
    | cons latest earlier =>
      dsimp only at hname
      rw [← hname]
      constructor
      · rintro hbase id hid
        cases hid
        exact hbase
      · intro hbase
        exact hbase latest rfl
  · cases linked with
    | nil => cases hhead
    | cons latest earlier =>
      cases hhead
      rw [hafter]
      exact continued_of_linked hkind hflow earlier base

/-! ## A flow that gives advice -/

/-- The text of a catalog with a flow that links to another. -/
def advisingText : String :=
  "\x7b\"flows\":[\x7b\"id\":\"transfer\",\"name\":\"transfer money\",\"steps\":[\x7b\"id\":\"a\"," ++
  "\"type\":\"action\",\"action\":\"utter_a\"\x7d]\x7d,\x7b\"id\":\"check\",\"steps\":[\x7b" ++
  "\"id\":\"more\",\"type\":\"link\",\"link\":\"tips\"\x7d]\x7d,\x7b\"id\":\"tips\",\"steps\":[" ++
  "\x7b\"id\":\"t\",\"type\":\"action\",\"action\":\"utter_t\"\x7d]\x7d]\x7d"

/-- The catalog of that text. -/
def advising : Catalog :=
  [.ofDeclared "transfer" (some "transfer money") [⟨"a", .action (some "utter_a"), []⟩],
    .ofDeclared "check" none [⟨"more", .link "tips", []⟩],
    .ofDeclared "tips" none [⟨"t", .action (some "utter_t"), []⟩]]

/-- The transfer, which the flows below interrupt. -/
def transferring : Stack := [⟨"transfer", "a", .regular, none⟩]

/-- The conversation in which a flow interrupts the transfer. -/
def interrupted (flowId : String) : Conversation :=
  (Conversation.fresh "user" .empty).recordAll
    [Stack.persist (.atStart flowId .interrupt :: transferring)]

/-- A turn of that conversation. -/
theorem interrupted_turn {flowId : String} {domain : Domain} {prediction : Prediction}
    (hturn : (advance (interrupted flowId) domain (Pattern.addTo advising) plainServices 9 []).1 =
      .ok prediction)
    (hkept : Stack.ofConversation ((interrupted flowId).recordAll prediction.committed) =
      .ok (leftBehind (interrupted flowId) domain (Pattern.addTo advising) plainServices 9 [])) :
    Committed (Pattern.addTo advising) (.atStart flowId .interrupt :: transferring)
      (visitsOf (interrupted flowId) domain (Pattern.addTo advising) plainServices 9 [])
      ((interrupted flowId).recordAll prediction.committed) := by
  have hstack : Stack.ofConversation (interrupted flowId) =
      .ok (.atStart flowId .interrupt :: transferring) := by
    rw [interrupted, ofConversation_recordAll, Event.lastAssigned?_singleton, Stack.persist,
      Event.assigned?_slotSet, if_pos rfl, Option.map_some, Stack.decode_toJson, Option.getD_some]
  exact Committed.turn (.begin hstack) domain plainServices 9 [] hturn hkept

/-- The advice interrupts the transfer and is given in a first turn. In a second one it ends, and the
prompt names the transfer. -/
theorem tips_continue_transfer :
    let advised : Catalog := Pattern.addTo advising
    let interrupt : Frame := .atStart "tips" .interrupt
    ∃ past ending rest conversation,
      Committed advised (interrupt :: transferring) (past ++ ending :: rest) conversation ∧
      linksOf transferring.length past = some [] ∧
      linksOf transferring.length (past ++ [ending]) = none ∧
      ending.after = transferring.push (Pattern.continueFrame "transfer money") ∧
      userFlowName? transferring advised = some "transfer money" := by
  intro advised interrupt
  let domain : Domain := ⟨["utter_t"], [], []⟩
  let given : Stack := { interrupt with stepId := "t" } :: transferring
  let prompt : Frame := Pattern.continueFrame "transfer money"
  let giving : Visit := ⟨interrupt :: transferring,
    some ⟨.step ⟨"t", .action (some "utter_t"), [.always endId]⟩, .pause "utter_t" none⟩, given⟩
  let ending : Visit := ⟨given, some ⟨.finish, .proceed []⟩, prompt :: transferring⟩
  let prompting : Visit := ⟨prompt :: transferring,
    some ⟨.step ⟨"utter_continue", .action (some "utter_flow_continue_interrupted"),
      [.always endId]⟩, .pause "utter_flow_continue_interrupted" none⟩,
    { prompt with stepId := "utter_continue" } :: transferring⟩
  let first : Prediction := .certain "utter_t" [given.persist] none
  let told := (interrupted "tips").recordAll first.committed
  let second : Prediction :=
    .certain "utter_flow_continue_interrupted" [prompting.after.persist] none
  have hfirst : Committed advised (interrupt :: transferring) [giving] told := by
    have hseen : visitsOf (interrupted "tips") domain advised plainServices 9 [] = [giving] := by
      decide +kernel
    rw [← hseen]
    exact interrupted_turn (by decide +kernel) (by decide +kernel)
  have hsecond : Committed advised (interrupt :: transferring) ([giving] ++ [ending, prompting])
      (told.recordAll second.committed) := by
    have hseen : visitsOf told domain advised plainServices 9 [] = [ending, prompting] := by
      decide +kernel
    rw [← hseen]
    exact hfirst.turn domain plainServices 9 [] (by decide +kernel) (by decide +kernel)
  have hpast : linksOf transferring.length [giving] = some [] := by decide +kernel
  have hends : linksOf transferring.length ([giving] ++ [ending]) = none := by decide +kernel
  obtain ⟨-, hnames, -⟩ := continued_flow_iff hsecond hpast hends
  exact ⟨[giving], ending, [prompting], _, hsecond, hpast, hends, rfl,
    (hnames "transfer money" rfl).mpr fun _ hnone => (nomatch hnone)⟩

/-- The check interrupts the transfer and links to the advice. The prompt after it names the advice,
which has not begun, and not the transfer. -/
theorem check_continues_tips :
    let advised : Catalog := Pattern.addTo advising
    let interrupt : Frame := .atStart "check" .interrupt
    Catalog.load advisingText = .ok advising ∧
    Stack.Placed advised (interrupt :: transferring) ∧
    ∃ past ending rest conversation,
      Committed advised (interrupt :: transferring) (past ++ ending :: rest) conversation ∧
      linksOf transferring.length past = some ["tips"] ∧
      linksOf transferring.length (past ++ [ending]) = none ∧
      ending.after = Stack.push ending.before.tail (Pattern.continueFrame "tips") ∧
      userFlowName? transferring advised = some "transfer money" := by
  intro advised interrupt
  have hload : Catalog.load advisingText = .ok advising := by decide +kernel
  have htransferring : Stack.Placed advised transferring :=
    List.forall_mem_singleton.mpr fun _ => ⟨_, rfl, Or.inr ⟨_, List.mem_singleton_self _, rfl⟩⟩
  have hplaced : Stack.Placed advised (interrupt :: transferring) :=
    htransferring.push rfl (by decide)
  let under : Stack := .atStart "tips" .link :: transferring
  let prompt : Frame := Pattern.continueFrame "tips"
  let linking : Visit := ⟨interrupt :: transferring,
    some ⟨.step ⟨"more", .link "tips", []⟩, .proceed []⟩,
    { interrupt with stepId := "more" } :: under⟩
  let ending : Visit := ⟨linking.after, some ⟨.finish, .proceed []⟩, prompt :: under⟩
  let prompting : Visit := ⟨prompt :: under,
    some ⟨.step ⟨"utter_continue", .action (some "utter_flow_continue_interrupted"),
      [.always endId]⟩, .pause "utter_flow_continue_interrupted" none⟩,
    { prompt with stepId := "utter_continue" } :: under⟩
  have hrun : Committed advised (interrupt :: transferring) ([linking] ++ [ending, prompting])
      ((interrupted "check").recordAll (Prediction.committed
        (.certain "utter_flow_continue_interrupted" [prompting.after.persist] none))) := by
    have hseen : visitsOf (interrupted "check") .empty advised plainServices 9 [] =
        [linking, ending, prompting] := by decide +kernel
    rw [List.singleton_append, ← hseen]
    exact interrupted_turn (by decide +kernel) (by decide +kernel)
  exact ⟨hload, hplaced, [linking], ending, [prompting], _, hrun, by decide +kernel,
    by decide +kernel, rfl, by decide +kernel⟩

end Turn

end DialogueFlow
