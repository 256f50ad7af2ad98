/-
  The ceiling of a turn. `iterations` counts the iterations of a turn without a ceiling; a turn is
  their result, or the breaker where they gave none within the ceiling (`loop_apply`). Main
  statement: `selectAction_ceiling`. A turn that does not trip is the same under every higher
  ceiling, one that trips carries the stack after exactly its ceiling of iterations, and a turn that
  needs `k` iterations trips exactly below `k`.
-/
import DialogueFlow.Proofs.Catalog.Merge
import DialogueFlow.Proofs.Turn.Iteration
import DialogueFlow.Proofs.Turn.Selection
import DialogueFlow.Proofs.Turn.Steadiness
import DialogueFlow.Templated

namespace DialogueFlow.Turn

variable {setting : Setting}

/-- Iterates up to `n` times, or until there is a result. -/
def iterations (setting : Setting) :
    (n : Nat) → Progress → Asking (Progress × Option (Except FlowError Prediction))
  | 0, progress => return (progress, none)
  | n + 1, progress => do
    match ← iterate setting progress with
    | (progress, none) => iterations setting n progress
    | (progress, some result) => return (progress, some result)

/-- What a turn hands back after its iterations: the breaker stands in for a missing result. -/
def conclude (ceiling : Nat) :
    Progress × Option (Except FlowError Prediction) → Progress × Except FlowError Prediction
  | (progress, none) => (progress, .error (.circuitBreakerTripped progress.stack (ceiling + 1)))
  | (progress, some result) => (progress, result)

/-- The breaker has ended the turn. -/
def Tripped (result : Except FlowError Prediction) : Prop :=
  ∃ stack steps, result = .error (.circuitBreakerTripped stack steps)

/-! ## Iterations -/

theorem iterations_succ_none {progress next : Progress} {asked asked' : List Question}
    (h : iterate setting progress asked = ((next, none), asked')) (n : Nat) :
    iterations setting (n + 1) progress asked = iterations setting n next asked' := by
  rw [iterations, Asking.bind_apply, h]

theorem iterations_succ_some {progress next : Progress} {result : Except FlowError Prediction}
    {asked asked' : List Question}
    (h : iterate setting progress asked = ((next, some result), asked')) (n : Nat) :
    iterations setting (n + 1) progress asked = ((next, some result), asked') := by
  rw [iterations, Asking.bind_apply, h]
  rfl

/-- Iterations that have a result do not go on. -/
theorem iterations_of_le {n m : Nat} (h : n ≤ m) (progress : Progress) (asked : List Question)
    (hresult : (iterations setting n progress asked).1.2 ≠ none) :
    iterations setting m progress asked = iterations setting n progress asked := by
  induction n generalizing m progress asked with
  | zero => exact absurd rfl hresult
  | succ n ih =>
    obtain ⟨m, rfl⟩ : ∃ m', m = m' + 1 := ⟨m - 1, by omega⟩
    rcases hstep : iterate setting progress asked with ⟨⟨next, result⟩, asked'⟩
    cases result with
    | none =>
      rw [iterations_succ_none hstep] at hresult ⊢
      rw [iterations_succ_none hstep]
      exact ih (by omega) next asked' hresult
    | some result => rw [iterations_succ_some hstep, iterations_succ_some hstep]

/-- Iterations without a result had none before. -/
theorem iterations_none_of_le {n m : Nat} (h : n ≤ m) (progress : Progress)
    (asked : List Question) (hnone : (iterations setting m progress asked).1.2 = none) :
    (iterations setting n progress asked).1.2 = none := by
  by_contra hresult
  rw [iterations_of_le h progress asked hresult] at hnone
  exact hresult hnone

/-- No iteration ends a turn by the breaker. -/
theorem Iteration.not_tripped {before after : Progress} {result : Except FlowError Prediction}
    (h : Iteration setting before (after, some result)) : ¬ Tripped result := by
  rintro ⟨stack, steps, rfl⟩
  cases h with
  | failed hat hnext heffect => cases heffect

/-- What iterations keep as long as the turn goes on holds wherever it goes on, and before the
iteration that has a result. -/
theorem iterations_cases {P : Progress → Prop}
    (hstep : ∀ progress next, P progress → Iteration setting progress (next, none) → P next)
    (n : Nat) (progress : Progress) (hprogress : P progress) (asked : List Question) :
    let ended := (iterations setting n progress asked).1
    (ended.2 = none → P ended.1) ∧ ∀ result, ended.2 = some result →
      ∃ before, P before ∧ Iteration setting before (ended.1, some result) := by
  induction n generalizing progress asked with
  | zero => exact ⟨fun _ => hprogress, fun _ hresult => nomatch hresult⟩
  | succ n ih =>
    have hiteration := iterate_iteration setting progress asked
    rcases hnext : iterate setting progress asked with ⟨⟨next, ended⟩, asked'⟩
    rw [hnext] at hiteration
    cases ended with
    | none =>
      rw [iterations_succ_none hnext]
      exact ih next (hstep _ _ hprogress hiteration) asked'
    | some ended =>
      rw [iterations_succ_some hnext]
      refine ⟨fun hnone => (nomatch hnone), fun result hresult => ?_⟩
      obtain rfl : ended = result := Option.some.inj hresult
      exact ⟨progress, hprogress, hiteration⟩

theorem not_tripped_iterations {n : Nat} {progress : Progress} {asked : List Question}
    {result : Except FlowError Prediction}
    (h : (iterations setting n progress asked).1.2 = some result) : ¬ Tripped result := by
  obtain ⟨-, hends⟩ := iterations_cases (P := fun _ => True) (fun _ _ _ _ => trivial) n progress
    trivial asked
  obtain ⟨before, -, hiteration⟩ := hends result h
  exact hiteration.not_tripped

/-! ## The ceiling -/

/-- A turn is its iterations, concluded. -/
theorem loop_apply (ceiling rounds : Nat) (progress : Progress) (asked : List Question) :
    loop setting ceiling rounds progress asked =
      (conclude ceiling (iterations setting rounds progress asked).1,
        (iterations setting rounds progress asked).2) := by
  induction rounds generalizing progress asked with
  | zero => rfl
  | succ rounds ih =>
    rw [loop_succ]
    rcases hstep : iterate setting progress asked with ⟨⟨next, result⟩, asked'⟩
    cases result with
    | none =>
      rw [iterations_succ_none hstep]
      exact ih next asked'
    | some result =>
      rw [iterations_succ_some hstep]
      rfl

theorem selectAction_conclude (ceiling : Nat) (stack : Stack) (conversation : Conversation)
    (asked : List Question) :
    let ended := conclude ceiling (iterations setting ceiling ⟨stack, conversation, []⟩ asked).1
    (selectAction setting ceiling stack conversation asked).1 = (ended.1.stack, ended.2) := by
  rw [selectAction_apply, loop_apply]

/-- A turn trips exactly if its ceiling of iterations gave no result. -/
theorem tripped_iff (ceiling : Nat) (stack : Stack) (conversation : Conversation)
    (asked : List Question) :
    Tripped (selectAction setting ceiling stack conversation asked).1.2 ↔
      (iterations setting ceiling ⟨stack, conversation, []⟩ asked).1.2 = none := by
  rw [selectAction_conclude]
  rcases hend : iterations setting ceiling ⟨stack, conversation, []⟩ asked with
    ⟨⟨next, result⟩, asked'⟩
  cases result with
  | none => exact iff_of_true ⟨_, _, rfl⟩ rfl
  | some result =>
    have hresult :
        (iterations setting ceiling ⟨stack, conversation, []⟩ asked).1.2 = some result := by
      rw [hend]
    exact iff_of_false (not_tripped_iterations hresult) (by simp)

theorem selectAction_of_none {ceiling : Nat} {stack : Stack} {conversation : Conversation}
    {asked : List Question}
    (h : (iterations setting ceiling ⟨stack, conversation, []⟩ asked).1.2 = none) :
    (selectAction setting ceiling stack conversation asked).1.2 = .error (.circuitBreakerTripped
      (iterations setting ceiling ⟨stack, conversation, []⟩ asked).1.1.stack (ceiling + 1)) := by
  rw [selectAction_conclude]
  rcases hend : iterations setting ceiling ⟨stack, conversation, []⟩ asked with ⟨⟨next, ended⟩, log⟩
  rw [hend] at h
  obtain rfl : ended = none := h
  rfl

/-- Under a ceiling from `n` on, a turn is what `n` iterations with a result come to. -/
theorem selectAction_of_some {n ceiling : Nat} (hle : n ≤ ceiling) {stack : Stack}
    {conversation : Conversation} {asked : List Question} {result : Except FlowError Prediction}
    (h : (iterations setting n ⟨stack, conversation, []⟩ asked).1.2 = some result) :
    (selectAction setting ceiling stack conversation asked).1 =
      ((iterations setting n ⟨stack, conversation, []⟩ asked).1.1.stack, result) := by
  have hsome : (iterations setting n ⟨stack, conversation, []⟩ asked).1.2 ≠ none := by
    rw [h]
    simp
  rw [selectAction_conclude, iterations_of_le hle _ _ hsome]
  rcases hend : iterations setting n ⟨stack, conversation, []⟩ asked with ⟨⟨next, ended⟩, log⟩
  rw [hend] at h
  obtain rfl : ended = some result := h
  rfl

/-- A turn that does not trip is the same under every higher ceiling. -/
theorem selectAction_of_le {n m : Nat} (hle : n ≤ m) {stack : Stack} {conversation : Conversation}
    {asked : List Question}
    (h : ¬ Tripped (selectAction setting n stack conversation asked).1.2) :
    (selectAction setting m stack conversation asked).1 =
      (selectAction setting n stack conversation asked).1 := by
  rw [tripped_iff] at h
  obtain ⟨result, hresult⟩ := Option.ne_none_iff_exists'.mp h
  rw [selectAction_of_some hle hresult, selectAction_of_some (Nat.le_refl n) hresult]

/-- A turn that trips does so with the stack after its ceiling of iterations. -/
theorem selectAction_tripped {ceiling : Nat} {stack carried : Stack} {steps : Nat}
    {conversation : Conversation} {asked : List Question}
    (h : (selectAction setting ceiling stack conversation asked).1.2 =
      .error (.circuitBreakerTripped carried steps)) :
    (iterations setting ceiling ⟨stack, conversation, []⟩ asked).1.2 = none ∧
      carried = (iterations setting ceiling ⟨stack, conversation, []⟩ asked).1.1.stack ∧
      steps = ceiling + 1 := by
  have hnone := (tripped_iff ceiling stack conversation asked).mp ⟨carried, steps, h⟩
  rw [selectAction_of_none hnone] at h
  cases h
  exact ⟨hnone, rfl, rfl⟩

/-- A turn that needs `k` iterations has their result exactly under the ceilings from `k` on. -/
theorem selectAction_eq_iff {stack : Stack} {conversation : Conversation} {asked : List Question}
    {k : Nat} {result : Except FlowError Prediction}
    (hbefore : ∀ j < k, (iterations setting j ⟨stack, conversation, []⟩ asked).1.2 = none)
    (hresult : (iterations setting k ⟨stack, conversation, []⟩ asked).1.2 = some result)
    (ceiling : Nat) :
    (selectAction setting ceiling stack conversation asked).1.2 = result ↔ k ≤ ceiling := by
  constructor
  · intro heq
    by_contra hlt
    have htripped := (tripped_iff ceiling stack conversation asked).mpr (hbefore ceiling (by omega))
    rw [heq] at htripped
    exact not_tripped_iterations hresult htripped
  · intro hle
    rw [selectAction_of_some hle hresult]

/-! ## Chains of branches -/

theorem interpret_proceed {progress : Progress} {flow : Flow} {current node : Node}
    {stack : Stack} {events : List Event} {asked asked' asked'' : List Question}
    (hnext : Selection.nextNode setting.services current flow progress.stack progress.conversation
      asked = (some node, asked'))
    (hrun : Interpreter.run setting flow node (progress.stack.moveTo node.id) progress.conversation
      asked' = (.ok (.proceed events, stack), asked'')) :
    interpret setting flow current progress asked =
      ((progress.advance stack events, none), asked'') := by
  unfold interpret
  rw [Asking.bind_apply, hnext]
  dsimp only
  rw [Asking.bind_apply, hrun]
  rfl

theorem interpret_pause {progress : Progress} {flow : Flow} {current node : Node}
    {stack : Stack} {action : String} {metadata : Option (Table Json)}
    {asked asked' asked'' : List Question}
    (hnext : Selection.nextNode setting.services current flow progress.stack progress.conversation
      asked = (some node, asked'))
    (hrun : Interpreter.run setting flow node (progress.stack.moveTo node.id) progress.conversation
      asked' = (.ok (.pause action metadata, stack), asked'')) :
    interpret setting flow current progress asked =
      ((progress.advance stack [], some (.ok (.certain action (progress.events ++ []) metadata))),
        asked'') := by
  unfold interpret
  rw [Asking.bind_apply, hnext]
  dsimp only
  rw [Asking.bind_apply, hrun]
  rfl

theorem nextNode_single {current : Node} {flow : Flow} {step : Step}
    (hnext : current.next = [.always step.id]) (hnode : flow.node? step.id = some (.step step))
    (services : Services) (stack : Stack) (conversation : Conversation) (asked : List Question) :
    Selection.nextNode services current flow stack conversation asked =
      (some (.step step), asked) := by
  rw [Selection.nextNode_apply, Selection.nextId_single hnext]
  simp [hnode]

/-- A trail of branches from a node to a last step: each node has a single unconditional link, which
leads to the next one. -/
inductive Trail (flow : Flow) (last : Step) : (current : Node) → (branches : Nat) → Prop
  | last {current : Node} (hnext : current.next = [.always last.id])
      (hnode : flow.node? last.id = some (.step last)) : Trail flow last current 0
  | branch {current : Node} {step : Step} {branches : Nat}
      (hnext : current.next = [.always step.id]) (hnode : flow.node? step.id = some (.step step))
      (htask : step.task = .branch) (hrest : Trail flow last (.step step) branches) :
      Trail flow last current (branches + 1)

/-- An action step that may be predicted, whatever was asked before. -/
structure Predicts (setting : Setting) (step : Step) (context : Table Json) (action : String) :
    Prop where
  available : action ∈ setting.actions
  rendered : ∃ template, step.task = .action (some template) ∧ Text.isBlankText template = false ∧
    ∀ asked, setting.services.evaluator.render asked template (Condition.templateRoot context) =
      .ok action

theorem run_predicts {flow : Flow} {step : Step} {stack : Stack} {action : String}
    (h : Predicts setting step stack.context action) (conversation : Conversation)
    (asked : List Question) : ∃ asked', Interpreter.run setting flow (.step step) stack conversation
      asked = (.ok (.pause action none, stack), asked') := by
  obtain ⟨template, htask, hblank, hrender⟩ := h.rendered
  have hfilter : (some template).filter (!Text.isBlankText ·) = some template := by
    simp [hblank]
  refine ⟨.render template (Condition.templateRoot stack.context) :: asked, ?_⟩
  show Interpreter.runStep setting flow step stack conversation asked = _
  unfold Interpreter.runStep
  rw [htask]
  dsimp only
  rw [Asking.bind_apply, Interpreter.runAction, hfilter]
  dsimp only
  rw [Asking.bind_apply, Services.render, hrender]
  dsimp only
  rw [if_pos h.available]
  rfl

theorem run_branch {flow : Flow} {step : Step} (htask : step.task = .branch) (stack : Stack)
    (conversation : Conversation) (asked : List Question) :
    Interpreter.run setting flow (.step step) stack conversation asked =
      (.ok (.proceed [], stack), asked) := by
  show Interpreter.runStep setting flow step stack conversation asked = _
  unfold Interpreter.runStep
  rw [htask]
  rfl

/-- A turn on a trail needs one iteration for every branch and one for the action. -/
theorem iterations_trail {flow : Flow} {last : Step} {current : Node} {branches : Nat}
    (htrail : Trail flow last current branches) {progress : Progress} {top : Frame} {below : Stack}
    (hat : At setting.catalog progress.stack top below flow current) {action : String}
    (hlast : Predicts setting last (top.context.getD []) action) (asked : List Question) :
    (∀ j < branches + 1, (iterations setting j progress asked).1.2 = none) ∧
      (iterations setting (branches + 1) progress asked).1.2 =
        some (.ok (.certain action progress.events none)) := by
  induction htrail generalizing progress top asked with
  | @last current hnext hnode =>
    obtain ⟨asked', hrun⟩ :=
      run_predicts ((hat.moved hnode).context_eq ▸ hlast) progress.conversation asked
    have hiterate := (iterate_at hat asked).trans
      (interpret_pause (nextNode_single hnext hnode _ _ _ asked) hrun)
    rw [iterations_succ_some hiterate, List.append_nil]
    refine ⟨fun j hj => ?_, rfl⟩
    obtain rfl : j = 0 := by omega
    rfl
  | @branch current step branches hnext hnode htask hrest ih =>
    have hiterate := (iterate_at hat asked).trans
      (interpret_proceed (nextNode_single hnext hnode _ _ _ asked)
        (run_branch htask _ progress.conversation asked))
    have hat' : At setting.catalog (progress.advance (progress.stack.moveTo step.id) []).stack
        { top with stepId := step.id } below flow (.step step) :=
      hat.moved hnode
    have hevents : (progress.advance (progress.stack.moveTo step.id) []).events = progress.events :=
      List.append_nil _
    obtain ⟨hnone, hsome⟩ := ih hat' hlast asked
    rw [hevents] at hsome
    rw [iterations_succ_none hiterate]
    refine ⟨fun j hj => ?_, hsome⟩
    cases j with
    | zero => rfl
    | succ j =>
      rw [iterations_succ_none hiterate]
      exact hnone j (by omega)

/-- The steps of a chain: branches, and an action at the end. -/
def chainSteps (branches : List String) (last template : String) : List Step :=
  branches.map (fun id => ⟨id, .branch, []⟩) ++ [⟨last, .action (some template), []⟩]

/-- A chain of branches before an action that may be predicted, as the flow of an id. -/
structure Chain (setting : Setting) (id : String) (branches : List String)
    (last template action : String) : Prop where
  declared : setting.catalog.flow? id =
    some (.ofDeclared id none (chainSteps branches last template))
  distinct : (branches ++ [last]).Nodup
  free : ∀ stepId ∈ branches ++ [last], isReservedId stepId = false
  predicts : Predicts setting ⟨last, .action (some template), [.always endId]⟩ [] action

theorem ids_chainSteps (branches : List String) (last template : String) :
    (chainSteps branches last template).map (·.id) = branches ++ [last] := by
  simp [chainSteps, Function.comp_def]

/-- The steps of a chain are a trail. -/
theorem trail_chainSteps {flow : Flow} {branches : List String} {last template : String}
    (hnode : ∀ step ∈ Flow.fallThrough (chainSteps branches last template),
      flow.node? step.id = some (.step step))
    {current : Node} (hnext : current.next = [.always (branches.head?.getD last)]) :
    Trail flow ⟨last, .action (some template), [.always endId]⟩ current branches.length := by
  induction branches generalizing current with
  | nil => exact .last hnext (hnode _ (List.mem_singleton_self _))
  | cons id rest ih =>
    have hsteps : Flow.fallThrough (chainSteps (id :: rest) last template) =
        ⟨id, .branch, [.always (rest.head?.getD last)]⟩ ::
          Flow.fallThrough (chainSteps rest last template) := by
      cases rest <;> rfl
    rw [hsteps, List.forall_mem_cons] at hnode
    exact .branch hnext hnode.1 rfl (ih hnode.2 rfl)

/-- The turn of a chain succeeds exactly if the ceiling allows an iteration for every branch and one
for the action. -/
theorem Chain.succeeds_iff {id : String} {branches : List String} {last template action : String}
    (h : Chain setting id branches last template action) (ceiling : Nat)
    (conversation : Conversation) (asked : List Question) :
    (selectAction setting ceiling [.atStart id .regular] conversation asked).1.2 =
      .ok (.certain action [] none) ↔ branches.length + 1 ≤ ceiling := by
  have hids : (Flow.fallThrough (chainSteps branches last template)).map (·.id) =
      branches ++ [last] := by
    rw [Flow.ids_fallThrough, ids_chainSteps]
  have hnode : ∀ step ∈ Flow.fallThrough (chainSteps branches last template),
      (Flow.ofDeclared id none (chainSteps branches last template)).node? step.id =
        some (.step step) := by
    intro step hstep
    refine Flow.node?_of_distinct (hids ▸ h.distinct) (h.free _ ?_) hstep
    rw [← hids]
    exact List.mem_map_of_mem hstep
  have hfirst : (Flow.ofDeclared id none (chainSteps branches last template)).firstId =
      branches.head?.getD last := by
    rw [Flow.firstId, ← List.head?_map, Flow.ofDeclared, hids]
    cases branches <;> rfl
  have htrail : Trail (.ofDeclared id none (chainSteps branches last template)) _
      (.start (branches.head?.getD last)) branches.length := trail_chainSteps hnode rfl
  have hat : At setting.catalog (Progress.mk [.atStart id .regular] conversation []).stack
      (.atStart id .regular) [] _ (.start (branches.head?.getD last)) :=
    ⟨rfl, rfl, h.declared, hfirst ▸ Flow.node?_startId _⟩
  obtain ⟨hnone, hsome⟩ := iterations_trail htrail hat h.predicts asked
  exact selectAction_eq_iff hnone hsome ceiling

/-! ## The laws of the ceiling -/

/-- With steady services: a turn that does not trip comes to the same under every higher ceiling;
one that trips reports one step more than its ceiling and carries the stack after as many
iterations, and trips under every lower ceiling; a turn that needs `k` iterations has their result
exactly under the ceilings from `k` on, as a chain of branches shows. -/
theorem selectAction_ceiling (hsteady : setting.services.Steady) (stack : Stack)
    (conversation : Conversation) (asked asked' : List Question) :
    (∀ N M, N ≤ M → ¬ Tripped (selectAction setting N stack conversation asked).1.2 →
      (selectAction setting M stack conversation asked').1 =
        (selectAction setting N stack conversation asked).1) ∧
    (∀ N carried steps, (selectAction setting N stack conversation asked).1.2 =
        .error (.circuitBreakerTripped carried steps) →
      steps = N + 1 ∧
      (iterations setting N ⟨stack, conversation, []⟩ asked').1.2 = none ∧
      carried = (iterations setting N ⟨stack, conversation, []⟩ asked').1.1.stack ∧
      ∀ K ≤ N, (selectAction setting K stack conversation asked').1.2 =
        .error (.circuitBreakerTripped
          (iterations setting K ⟨stack, conversation, []⟩ asked').1.1.stack (K + 1))) ∧
    (∀ k result, (∀ j < k, (iterations setting j ⟨stack, conversation, []⟩ asked).1.2 = none) →
      (iterations setting k ⟨stack, conversation, []⟩ asked).1.2 = some result →
      ∀ ceiling, (selectAction setting ceiling stack conversation asked').1.2 = result ↔
        k ≤ ceiling) ∧
    ∀ id branches last template action, Chain setting id branches last template action →
      ∀ ceiling, (selectAction setting ceiling [.atStart id .regular] conversation asked').1.2 =
        .ok (.certain action [] none) ↔ branches.length + 1 ≤ ceiling := by
  -- what was asked before makes no difference
  have hlog : ∀ n, (selectAction setting n stack conversation asked').1 =
      (selectAction setting n stack conversation asked).1 :=
    fun n => steady_selectAction hsteady n stack conversation asked' asked
  refine ⟨fun N M hle hresult => ?_, fun N carried steps htripped => ?_,
    fun k result hbefore hresult ceiling => ?_,
    fun id branches last template action hchain ceiling =>
      hchain.succeeds_iff ceiling conversation asked'⟩
  · rw [hlog M]
    exact selectAction_of_le hle hresult
  · rw [← hlog N] at htripped
    obtain ⟨hnone, hcarried, hsteps⟩ := selectAction_tripped htripped
    exact ⟨hsteps, hnone, hcarried, fun K hle =>
      selectAction_of_none (iterations_none_of_le hle _ _ hnone)⟩
  · rw [hlog ceiling]
    exact selectAction_eq_iff hbefore hresult ceiling

/-- Two branches and an action, with the services that come with the program. -/
def chainSetting : Setting where
  catalog := [.ofDeclared "chain" none (chainSteps ["first", "second"] "done" "utter_done")]
  actions := ["utter_done"]
  services := Templated.services

theorem chain_ceiling :
    let turn := fun ceiling => (selectAction chainSetting ceiling [.atStart "chain" .regular]
      (.fresh "user" .empty) []).1.2
    turn 3 = .ok (.certain "utter_done" [] none) ∧
      turn 2 ≠ .ok (.certain "utter_done" [] none) := by
  intro turn
  have hrendered : chainSetting.services.evaluator.render [] "utter_done"
      (Condition.templateRoot []) = .ok "utter_done" := by decide +kernel
  have hchain : Chain chainSetting "chain" ["first", "second"] "done" "utter_done" "utter_done" :=
    ⟨rfl, by decide, by decide, ⟨by decide, "utter_done", rfl, by decide, fun asked =>
      (Templated.steady_services.1 asked [] _ _).trans hrendered⟩⟩
  have hceiling := (selectAction_ceiling Templated.steady_services [.atStart "chain" .regular]
    (.fresh "user" .empty) [] []).2.2.2 _ _ _ _ _ hchain
  exact ⟨(hceiling 3).mpr (by decide), fun hsame => absurd ((hceiling 2).mp hsame) (by decide)⟩

end DialogueFlow.Turn
