/-
  Frames below the ones a turn works on. As long as a frame of a flow of a user stays at the bottom
  of the stack, nothing that a turn does looks further down, so frames may be put below it: every
  node does the same above them (`Interpreter.run_onto`), every iteration does (`iterate_onto`), and
  so does the whole turn. Main statement: `selectAction_onto`.
-/
import DialogueFlow.Proofs.Turn.Visits

namespace DialogueFlow

/-! ## Stacks with more frames at the bottom -/

namespace Stack

variable {stack : Stack}

/-- The frame at the bottom belongs to a flow of a user. -/
def Grounded (stack : Stack) : Prop := ∃ bottom ∈ List.getLast? stack, bottom.isUserFlow = true

theorem not_grounded_nil : ¬ Grounded [] := by simp [Grounded]

theorem grounded_cons {top : Frame} {below : Stack} :
    Grounded (top :: below) ↔ (below = [] ∧ top.isUserFlow = true) ∨ Grounded below := by
  cases below with
  | nil => simp [Grounded]
  | cons next rest => simp [Grounded, List.getLast?_cons_cons]

/-- It does not matter where the cursors are. -/
theorem grounded_moved {top : Frame} {below : Stack} (stepId : String) :
    Grounded ({ top with stepId } :: below) ↔ Grounded (top :: below) := by
  rw [grounded_cons, grounded_cons]
  rfl

theorem Grounded.ne_nil (h : stack.Grounded) : stack ≠ [] := by
  rintro rfl
  exact not_grounded_nil h

/-- Frames on top do not change the bottom. -/
theorem Grounded.append (h : stack.Grounded) (above : List Frame) : Grounded (above ++ stack) := by
  induction above with
  | nil => exact h
  | cons frame above ih => exact grounded_cons.mpr (Or.inr ih)

theorem context_append (h : stack ≠ []) (base : Stack) :
    context (stack ++ base) = stack.context := by
  cases stack with
  | nil => exact absurd rfl h
  | cons => rfl

theorem moveTo_append (h : stack ≠ []) (base : Stack) (stepId : String) :
    moveTo (stack ++ base) stepId = stack.moveTo stepId ++ base := by
  cases stack with
  | nil => exact absurd rfl h
  | cons => rfl

theorem moveTo_ne_nil (h : stack ≠ []) (stepId : String) : stack.moveTo stepId ≠ [] := by
  cases stack with
  | nil => exact absurd rfl h
  | cons => exact List.cons_ne_nil _ _

theorem tail_moveTo (stack : Stack) (stepId : String) :
    (stack.moveTo stepId).tail = stack.tail := by
  cases stack <;> rfl

theorem pushBelowTop_append (h : stack ≠ []) (base : Stack) (frame : Frame) :
    pushBelowTop (stack ++ base) frame = stack.pushBelowTop frame ++ base := by
  cases stack with
  | nil => exact absurd rfl h
  | cons => rfl

/-- The nearest frame of a user is found before the frames below are looked at. -/
theorem topUserFrame?_append (h : stack.Grounded) (base : Stack) :
    topUserFrame? (stack ++ base) = stack.topUserFrame? := by
  obtain ⟨bottom, hbottom, huser⟩ := h
  have hfound : (List.find? Frame.isUserFlow stack).isSome :=
    List.find?_isSome.mpr ⟨bottom, List.mem_of_getLast? hbottom, huser⟩
  rw [topUserFrame?, List.find?_append, Option.or_of_isSome hfound]
  rfl

end Stack

namespace Pattern

variable {ended : Frame} {catalog : Catalog}

theorem afterInterrupt_append {below : Stack} (h : below.Grounded) (base : Stack) :
    afterInterrupt ended (below ++ base) catalog = afterInterrupt ended below catalog ++ base := by
  unfold afterInterrupt Stack.userNode? Stack.userFlow?
  rw [Stack.topUserFrame?_append h]
  repeat' split
  all_goals rfl

theorem afterLast_append {stack : Stack} (h : stack ≠ []) (base : Stack) :
    afterLast ended (stack ++ base) catalog = afterLast ended stack catalog ++ base := by
  have hne : stack ++ base ≠ [] := by simp [h]
  rw [afterLast, afterLast, if_neg (fun hempty => hne hempty.1), if_neg (fun hempty => h hempty.1)]

/-- The patterns at the end of a flow are the same above other frames. -/
theorem patterns_append {below : Stack} (h : below.Grounded) (base : Stack) :
    afterLast ended (afterInterrupt ended (below ++ base) catalog) catalog =
      afterLast ended (afterInterrupt ended below catalog) catalog ++ base := by
  have hne : afterInterrupt ended below catalog ≠ [] := by
    rcases afterInterrupt_cases ended below catalog with hsame | ⟨-, flow, -, hresumed⟩
    · exact hsame.symm ▸ h.ne_nil
    · exact hresumed.symm ▸ List.cons_ne_nil _ _
  rw [afterInterrupt_append h, afterLast_append hne]

end Pattern

/-! ## Nodes -/

namespace Interpreter

variable {setting : Setting} {flow : Flow} {stack : Stack}

/-- What was interpreted, with more frames at the bottom of the stack. -/
def onto (base : Stack) : Except FlowError (Outcome × Stack) → Except FlowError (Outcome × Stack) :=
  Except.map fun done => (done.1, done.2 ++ base)

theorem runStep_onto (h : stack ≠ []) (base : Stack) (step : Step) (conversation : Conversation)
    (asked : List Question) :
    let ran := runStep setting flow step stack conversation asked
    runStep setting flow step (stack ++ base) conversation asked = (onto base ran.1, ran.2) := by
  unfold runStep
  cases step.task with
  | action action =>
    have haction : runAction setting flow step.id action (stack ++ base) =
        runAction setting flow step.id action stack := by
      unfold runAction
      rw [Stack.context_append h]
    simp only [haction, Asking.bind_apply, Asking.pure_apply]
    cases (runAction setting flow step.id action stack asked).1 <;> rfl
  | link id =>
    simp only [Stack.pushBelowTop_append h]
    rfl
  | _ => rfl

theorem runEnd_onto {ended : Frame} {below : Stack} (h : below.Grounded) (base : Stack)
    (conversation : Conversation) :
    runEnd setting flow (ended :: (below ++ base)) conversation =
      onto base (runEnd setting flow (ended :: below) conversation) := by
  rw [runEnd, Pattern.patterns_append h]
  rfl

/-- A node does the same above other frames, if at the end of a flow a frame of a user is left. -/
theorem run_onto (setting : Setting) (flow : Flow) (h : stack ≠ []) {node : Node}
    (hends : node = .finish → Stack.Grounded stack.tail) (base : Stack)
    (conversation : Conversation) (asked : List Question) :
    let ran := run setting flow node stack conversation asked
    run setting flow node (stack ++ base) conversation asked = (onto base ran.1, ran.2) := by
  cases node with
  | step step => exact runStep_onto h base step conversation asked
  | finish =>
    obtain ⟨ended, below, rfl⟩ := List.exists_cons_of_ne_nil h
    exact congrArg (·, asked) (runEnd_onto (hends rfl) base conversation)
  | start first => rfl
  | resume id => rfl

end Interpreter

/-! ## Turns -/

namespace Turn

variable {setting : Setting} {progress : Progress}

/-- Where a turn stands, with more frames at the bottom of the stack. -/
def Progress.onto (base : Stack) (progress : Progress) : Progress :=
  { progress with stack := progress.stack ++ base }

/-- The result of a turn, with more frames at the bottom of the stack that the breaker carries. -/
def resultOnto (base : Stack) : Except FlowError Prediction → Except FlowError Prediction
  | .error (.circuitBreakerTripped stack steps) =>
    .error (.circuitBreakerTripped (stack ++ base) steps)
  | result => result

theorem resultOnto_of_not_tripped {result : Except FlowError Prediction} (h : ¬ Tripped result)
    (base : Stack) : resultOnto base result = result := by
  unfold resultOnto
  split
  · exact absurd ⟨_, _, rfl⟩ h
  · rfl

/-- An iteration that ends a flow leaves a frame. -/
def Visit.Leaves (visit : Visit) : Prop := visit.Finishes → visit.before.tail ≠ []

theorem Visit.finishes_iff (visit : Visit) :
    visit.Finishes ↔ visit.call.map (·.node) = some .finish := by
  constructor
  · rintro ⟨outcome, hcall⟩
    rw [hcall]
    rfl
  · intro h
    obtain ⟨⟨node, outcome⟩, hcall, rfl⟩ := Option.map_eq_some_iff.mp h
    exact ⟨outcome, hcall⟩

instance (visit : Visit) : Decidable visit.Finishes :=
  decidable_of_iff _ visit.finishes_iff.symm

instance (visit : Visit) : Decidable visit.Leaves :=
  inferInstanceAs (Decidable (visit.Finishes → visit.before.tail ≠ []))

/-- A frame of a user stays at the bottom. -/
theorem Visit.Obeys.grounded {catalog : Catalog} {visit : Visit} (h : visit.Obeys catalog)
    (hground : visit.before.Grounded) (hleaves : visit.Leaves) : visit.after.Grounded := by
  cases h with
  | halted stepId => exact (Stack.grounded_moved stepId).mpr hground
  | stepped pushed => exact ((Stack.grounded_moved _).mpr hground).append pushed
  | linked =>
    refine Stack.grounded_cons.mpr (Or.inr (Stack.grounded_cons.mpr ?_))
    exact (Stack.grounded_cons.mp hground).imp_left fun hbottom => ⟨hbottom.1, rfl⟩
  | @ended top below outcome =>
    have hne : below ≠ [] := hleaves ⟨outcome, rfl⟩
    have hbelow : Stack.Grounded below :=
      (Stack.grounded_cons.mp hground).resolve_left fun hbottom => hne hbottom.1
    show Stack.Grounded (Pattern.afterLast top (Pattern.afterInterrupt top below catalog) catalog)
    rcases Pattern.patterns_cases top below catalog with hsame | ⟨-, flow, -, hresumed⟩ | ⟨hnil, -⟩
    · exact hsame.symm ▸ hbelow
    · exact hresumed.symm ▸ hbelow.append [_]
    · exact absurd hnil hne

theorem interpret_onto {flow : Flow} {current : Node} {asked : List Question}
    (hstack : progress.stack ≠ [])
    (hends : (Selection.nextNode setting.services current flow progress.stack
      progress.conversation asked).1 = some .finish → Stack.Grounded progress.stack.tail)
    (base : Stack) :
    let ran := interpret setting flow current progress asked
    interpret setting flow current (progress.onto base) asked =
      ((ran.1.1.onto base, ran.1.2), ran.2) := by
  have hselect : Selection.nextNode setting.services current flow (progress.stack ++ base) =
      Selection.nextNode setting.services current flow progress.stack := by
    unfold Selection.nextNode
    rw [Stack.context_append hstack]
  unfold interpret
  simp only [Progress.onto, hselect, Asking.bind_apply]
  rcases hnext : Selection.nextNode setting.services current flow progress.stack
    progress.conversation asked with ⟨next, asked'⟩
  rw [hnext] at hends
  cases next with
  | none => rfl
  | some node =>
    have hleft : node = .finish → Stack.Grounded (progress.stack.moveTo node.id).tail := by
      intro hfinish
      rw [Stack.tail_moveTo]
      exact hends (congrArg some hfinish)
    have hrun := Interpreter.run_onto setting flow (Stack.moveTo_ne_nil hstack node.id) hleft base
      progress.conversation asked'
    simp only [Stack.moveTo_append hstack, Asking.bind_apply, hrun]
    rcases Interpreter.run setting flow node (progress.stack.moveTo node.id) progress.conversation
      asked' with ⟨ran, asked''⟩
    cases ran with
    | error cause => rfl
    | ok done =>
      obtain ⟨outcome, stack⟩ := done
      cases outcome <;> rfl

theorem At.onto {top : Frame} {below : Stack} {flow : Flow} {current : Node}
    (h : At setting.catalog progress.stack top below flow current) (base : Stack) :
    At setting.catalog (progress.onto base).stack top (below ++ base) flow current :=
  ⟨by rw [Progress.onto, h.stack_eq, List.cons_append], h.isFlow, h.flow_eq, h.node_eq⟩

/-- What ends a turn before it looks for a node does so above other frames. -/
theorem Halts.onto {result : Except FlowError Prediction}
    (h : Halts setting.catalog progress result) (hne : progress.stack ≠ []) (base : Stack) :
    Halts setting.catalog (progress.onto base) result := by
  obtain ⟨top, below, hstack⟩ := List.exists_cons_of_ne_nil hne
  have honto : (progress.onto base).stack = top :: (below ++ base) := by
    rw [Progress.onto, hstack, List.cons_append]
  cases h with
  | idle hidle =>
    show Halts setting.catalog (progress.onto base) (.ok (progress.onto base).waiting)
    refine .idle fun other rest h => ?_
    obtain ⟨rfl, -⟩ := List.cons.inj (honto.symm.trans h)
    exact hidle top below hstack
  | unknownFlow hstack' hkind hflow =>
    obtain ⟨rfl, -⟩ := List.cons.inj (hstack.symm.trans hstack')
    exact .unknownFlow honto hkind hflow
  | unknownStep hstack' hkind hflow hnode =>
    obtain ⟨rfl, -⟩ := List.cons.inj (hstack.symm.trans hstack')
    exact .unknownStep honto hkind hflow hnode

/-- An iteration does the same above other frames, if at the end of a flow a frame is left. -/
theorem iterate_onto (hground : progress.stack.Grounded) {asked : List Question}
    (hleaves : ∀ visit, visit? setting progress asked = some visit → visit.Leaves)
    (base : Stack) :
    let ran := iterate setting progress asked
    iterate setting (progress.onto base) asked = ((ran.1.1.onto base, ran.1.2), ran.2) := by
  rcases at_or_halts setting.catalog progress with
    ⟨top, below, flow, current, hat⟩ | ⟨result, hhalts⟩
  · rw [iterate_at hat, iterate_at (hat.onto base)]
    refine interpret_onto hground.ne_nil (fun hfinish => ?_) base
    -- the end of a flow is a call, so the iteration is a visit that leaves a frame
    have hvisit := visit?_at hat asked
    rw [call?_finish hat hfinish] at hvisit
    have hne := hleaves _ hvisit ⟨_, rfl⟩
    rw [hat.stack_eq] at hground hne ⊢
    exact (Stack.grounded_cons.mp hground).resolve_left fun hbottom => hne hbottom.1
  · rw [hhalts.iterate_eq, (hhalts.onto hground.ne_nil base).iterate_eq]

theorem iterate_grounded (hground : progress.stack.Grounded) {asked : List Question}
    (hleaves : ∀ visit, visit? setting progress asked = some visit → visit.Leaves) :
    (iterate setting progress asked).1.1.stack.Grounded := by
  rcases visit?_cases setting progress asked with ⟨-, hsame, -⟩ | ⟨call, hvisit, hobeys⟩
  · rw [hsame]
    exact hground
  · exact hobeys.grounded hground (hleaves _ hvisit)

/-- Iterations do the same above other frames. -/
theorem iterations_onto (n : Nat) (hground : progress.stack.Grounded) {asked : List Question}
    (hleaves : ∀ visit ∈ visits setting n progress asked, visit.Leaves) (base : Stack) :
    let ran := iterations setting n progress asked
    iterations setting n (progress.onto base) asked = ((ran.1.1.onto base, ran.1.2), ran.2) := by
  induction n generalizing progress asked with
  | zero => rfl
  | succ n ih =>
    have hfirst : ∀ visit, visit? setting progress asked = some visit → visit.Leaves := by
      intro visit hvisit
      refine hleaves visit ?_
      rw [visits, hvisit]
      exact List.mem_append_left _ List.mem_cons_self
    have honto := iterate_onto hground hfirst base
    have hnext := iterate_grounded hground hfirst
    rcases hiterate : iterate setting progress asked with ⟨⟨next, result⟩, asked'⟩
    rw [hiterate] at honto hnext
    cases result with
    | none =>
      rw [visits_succ_none hiterate, List.forall_mem_append] at hleaves
      rw [iterations_succ_none hiterate, iterations_succ_none honto]
      exact ih hnext hleaves.2
    | some result => rw [iterations_succ_some hiterate, iterations_succ_some honto]

theorem conclude_onto (ceiling : Nat) {ended : Progress × Option (Except FlowError Prediction)}
    (h : ∀ result, ended.2 = some result → ¬ Tripped result) (base : Stack) :
    conclude ceiling (ended.1.onto base, ended.2) =
      ((conclude ceiling ended).1.onto base, resultOnto base (conclude ceiling ended).2) := by
  obtain ⟨progress, result⟩ := ended
  cases result with
  | none => rfl
  | some result => exact congrArg _ (resultOnto_of_not_tripped (h result rfl) base).symm

theorem loop_onto (ceiling rounds : Nat) (hground : progress.stack.Grounded) {asked : List Question}
    (hleaves : ∀ visit ∈ visits setting rounds progress asked, visit.Leaves) (base : Stack) :
    let ran := loop setting ceiling rounds progress asked
    loop setting ceiling rounds (progress.onto base) asked =
      ((ran.1.1.onto base, resultOnto base ran.1.2), ran.2) := by
  have huntripped : ∀ result, (iterations setting rounds progress asked).1.2 = some result →
      ¬ Tripped result := fun result hresult => not_tripped_iterations hresult
  intro ran
  rw [loop_apply, iterations_onto rounds hground hleaves base,
    conclude_onto ceiling huntripped base]
  simp only [ran, loop_apply]

/-- A turn on a stack with a frame of a user at the bottom that never pops its last frame comes to
the same above any other frames: the result, the events and the questions asked are the same, and
the other frames stay below the ones that it leaves, as they do in what the breaker carries. -/
theorem selectAction_onto (setting : Setting) (ceiling : Nat) {stack : Stack}
    (hground : stack.Grounded) (conversation : Conversation) (asked : List Question)
    (hleaves : ∀ visit ∈ visits setting ceiling ⟨stack, conversation, []⟩ asked, visit.Leaves)
    (base : Stack) :
    let ran := selectAction setting ceiling stack conversation asked
    selectAction setting ceiling (stack ++ base) conversation asked =
      ((ran.1.1 ++ base, resultOnto base ran.1.2), ran.2) := by
  have hstart : (Progress.mk stack conversation []).stack.Grounded := hground
  have honto : loop setting ceiling ceiling ⟨stack ++ base, conversation, []⟩ asked = _ :=
    loop_onto ceiling ceiling hstart hleaves base
  intro ran
  rw [selectAction_apply, honto]
  rfl

/-- The order flow links to the payment and ends, and the payment is announced, above one that stays
as it is. -/
theorem order_turn_onto :
    let setting : Setting :=
      ⟨Pattern.addTo Catalog.order, Domain.builtIn, plainServices⟩
    let stack : Stack := [⟨"order", "size", .interrupt, none⟩]
    let announced : Stack :=
      [{ Pattern.continueFrame "pay" with stepId := "utter_continue" }, .atStart "pay" .link]
    let paid : Frame := ⟨"pay", "thank", .regular, none⟩
    let ran := selectAction setting 9 stack (.fresh "user" .empty) []
    ran.1.1 = announced ∧ selectAction setting 9 (stack ++ [paid]) (.fresh "user" .empty) [] =
      ((announced ++ [paid], resultOnto [paid] ran.1.2), ran.2) := by
  intro setting stack announced paid ran
  have hground : stack.Grounded := ⟨_, rfl, rfl⟩
  have hleaves : ∀ visit ∈ visits setting 9 ⟨stack, .fresh "user" .empty, []⟩ [],
      visit.Leaves := by decide +kernel
  have hstack : ran.1.1 = announced := by decide +kernel
  have honto := selectAction_onto setting 9 hground (.fresh "user" .empty) [] hleaves [paid]
  exact ⟨hstack, hstack ▸ honto⟩

end Turn

end DialogueFlow
