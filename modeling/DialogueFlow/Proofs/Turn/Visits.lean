/-
  The frames below the running one. A visit is an iteration that looks at a frame of a flow, with the
  stack before and after it. What a visit may do to the stack is listed once (`Visit.Obeys`): it
  keeps every frame below the top, and only a link step puts a frame between them and the top. The
  visits of a turn follow each other (`loop_trace`), so all that is said of stacks here goes by
  induction on such a trace. Main statement: `turn_keeps_lowest`.
-/
import DialogueFlow.Proofs.Turn.Calls
import DialogueFlow.Proofs.Turn.Persistence

namespace DialogueFlow.Turn

/-- An iteration that looks at a frame of a flow: the stack that it finds, the call that it makes,
and the stack that it leaves. -/
structure Visit where
  before : Stack
  call : Option Call
  after : Stack
  deriving DecidableEq, Repr

/-- The visit that an iteration is; none if no frame of a flow is on top. -/
def visit? (setting : Setting) (progress : Progress) (asked : List Question) : Option Visit :=
  match progress.stack with
  | [] => none
  | top :: _ =>
    if top.kind.isFlow then
      some ⟨progress.stack, call? setting progress asked,
        (iterate setting progress asked).1.1.stack⟩
    else none

/-- The visits of at most so many iterations, in order. -/
def visits (setting : Setting) : (rounds : Nat) → Progress → List Question → List Visit
  | 0, _, _ => []
  | rounds + 1, progress, asked =>
    (visit? setting progress asked).toList ++
      match iterate setting progress asked with
      | ((next, none), asked) => visits setting rounds next asked
      | ((_, some _), _) => []

/-! ## What a visit does to the stack -/

namespace Visit

/-- What a visit may do to the stack, one rule for each way. -/
inductive Obeys (catalog : Catalog) : Visit → Prop
  /-- Without a call the cursor stays, or it has moved to a node that failed. -/
  | halted {top : Frame} {below : Stack} (stepId : String) :
      Obeys catalog ⟨top :: below, none, { top with stepId } :: below⟩
  /-- A step that links to no flow moves the cursor, and may put frames on top. -/
  | stepped {top : Frame} {below : Stack} {step : Step} {outcome : Outcome} (pushed : List Frame)
      (htask : ∀ id, step.task ≠ .link id) :
      Obeys catalog
        ⟨top :: below, some ⟨.step step, outcome⟩, pushed ++ { top with stepId := step.id } :: below⟩
  | linked {top : Frame} {below : Stack} {step : Step} {outcome : Outcome} {id : String}
      (htask : step.task = .link id) :
      Obeys catalog ⟨top :: below, some ⟨.step step, outcome⟩,
        { top with stepId := step.id } :: .atStart id .link :: below⟩
  | ended {top : Frame} {below : Stack} {outcome : Outcome} :
      Obeys catalog ⟨top :: below, some ⟨.finish, outcome⟩,
        Pattern.afterLast top (Pattern.afterInterrupt top below catalog) catalog⟩

/-- The visit ends the flow of the top frame. -/
def Finishes (visit : Visit) : Prop := ∃ outcome, visit.call = some ⟨.finish, outcome⟩

end Visit

end DialogueFlow.Turn

namespace DialogueFlow

open Turn (Visit Comes At)

/-- Which pattern follows the end of a flow does not depend on the cursor of the ended frame. -/
theorem Pattern.patterns_moved (ended : Frame) (stepId : String) (below : Stack)
    (catalog : Catalog) :
    afterLast { ended with stepId } (afterInterrupt { ended with stepId } below catalog) catalog =
      afterLast ended (afterInterrupt ended below catalog) catalog := rfl

/-- The start of a flow is not its end. -/
theorem Node.start_goesOn (first : String) : (Node.start first).isEndOfFlow = false := by
  show (decide (startId = endId) || decide (startId = resumeId endId)) = false
  decide

/-- After the end of an interrupting flow a frame is put on the stack for the nearest flow of a user,
if that is not at its end. -/
theorem Pattern.patterns_of_resumed {ended : Frame} {below : Stack} {catalog : Catalog} {flow : Flow}
    {node : Node} (hkind : ended.kind = .interrupt) (hflow : below.userFlow? catalog = some flow)
    (hnode : below.userNode? catalog = some node) (hgoesOn : node.isEndOfFlow = false) :
    afterLast ended (afterInterrupt ended below catalog) catalog =
      continueFrame flow.readableName :: below := by
  have hresumed : afterInterrupt ended below catalog = continueFrame flow.readableName :: below := by
    rw [afterInterrupt, if_pos hkind, hnode, hflow]
    simp only [hgoesOn, Bool.false_eq_true, if_false]
    rfl
  rw [hresumed, afterLast, if_neg]
  exact fun hempty => absurd hempty.1 (List.cons_ne_nil _ _)

/-- A node that was interpreted did to the stack what a visit may do. -/
theorem Interpreter.Effect.obeys {setting : Setting} {flow : Flow} {stack below after : Stack}
    {conversation : Conversation} {top : Frame} {node : Node} {outcome : Outcome}
    (hstack : stack = { top with stepId := node.id } :: below)
    (h : Effect setting flow stack conversation node (.ok (outcome, after))) :
    Visit.Obeys setting.catalog ⟨top :: below, some ⟨node, outcome⟩, after⟩ := by
  cases h with
  | predicted htask | skipped htask | assigned htask | branched htask | generated htask =>
    subst hstack
    exact .stepped [] (by simp [htask])
  | collected htask =>
    subst hstack
    exact .stepped [_] (by simp [htask])
  | linked htask =>
    subst hstack
    exact .linked htask
  | ended htop =>
    rw [hstack] at htop
    obtain ⟨rfl, rfl⟩ := List.cons.inj htop
    rw [Pattern.patterns_moved]
    exact .ended

namespace Turn

variable {setting : Setting} {catalog : Catalog}

theorem Comes.obeys {flow : Flow} {current : Node} {progress : Progress} {top : Frame}
    {below : Stack} {call : Option Call} {after : Progress × Option (Except FlowError Prediction)}
    (hat : At setting.catalog progress.stack top below flow current)
    (h : Comes setting flow progress call after) :
    Visit.Obeys setting.catalog ⟨progress.stack, call, after.1.stack⟩ := by
  cases h with
  | stalled =>
    rw [hat.stack_eq]
    exact .halted top.stepId
  | @failed node _ heffect =>
    dsimp only
    rw [hat.moveTo_eq, hat.stack_eq]
    exact .halted node.id
  | proceeded heffect | paused heffect =>
    rw [hat.stack_eq]
    exact heffect.obeys (hat.moveTo_eq _)

theorem visit?_of_isFlow {progress : Progress} {top : Frame} {below : Stack}
    (hstack : progress.stack = top :: below) (hkind : top.kind.isFlow = true)
    (asked : List Question) :
    visit? setting progress asked = some ⟨progress.stack, call? setting progress asked,
      (iterate setting progress asked).1.1.stack⟩ := by
  unfold visit?
  simp only [hstack, hkind, if_true]

/-- The visit that an iteration at a frame of a flow is. -/
theorem visit?_at {progress : Progress} {top : Frame} {below : Stack} {flow : Flow}
    {current : Node} (hat : At setting.catalog progress.stack top below flow current)
    (asked : List Question) :
    visit? setting progress asked = some ⟨progress.stack, call? setting progress asked,
      (iterate setting progress asked).1.1.stack⟩ :=
  visit?_of_isFlow hat.stack_eq hat.isFlow asked

theorem visit?_idle {progress : Progress} (h : Idle progress.stack) (asked : List Question) :
    visit? setting progress asked = none := by
  unfold visit?
  cases hstack : progress.stack with
  | nil => rfl
  | cons top below =>
    have hkind := h top below hstack
    simp only [hkind, Bool.false_eq_true, if_false]

/-- An iteration is a visit that does what a visit may do, or it changes nothing. -/
theorem visit?_cases (setting : Setting) (progress : Progress) (asked : List Question) :
    let after := (iterate setting progress asked).1
    (visit? setting progress asked = none ∧ after.1 = progress ∧ after.2.isSome) ∨
      ∃ call, visit? setting progress asked = some ⟨progress.stack, call, after.1.stack⟩ ∧
        Visit.Obeys setting.catalog ⟨progress.stack, call, after.1.stack⟩ := by
  rcases at_or_halts setting.catalog progress with
    ⟨top, below, flow, current, hat⟩ | ⟨result, hhalts⟩
  · refine Or.inr ⟨_, visit?_at hat asked, ?_⟩
    rw [iterate_at hat]
    exact (interpret_comes hat asked).obeys hat
  · have hcall := hhalts.call?_eq asked
    have hiterate := hhalts.iterate_eq asked
    cases hhalts with
    | idle hidle =>
      rw [hiterate]
      exact Or.inl ⟨visit?_idle hidle asked, rfl, rfl⟩
    | @unknownFlow top below hstack hkind _ | @unknownStep top below _ hstack hkind _ _ =>
      -- a frame of a flow is visited also where its flow or its step is not known
      refine Or.inr ⟨_, visit?_of_isFlow hstack hkind asked, ?_⟩
      rw [hcall, hiterate]
      dsimp only
      rw [hstack]
      exact .halted top.stepId

/-! ## The visits of a turn -/

/-- Visits that follow each other from one stack to another. -/
inductive Trace (catalog : Catalog) : Stack → List Visit → Stack → Prop
  | done (stack : Stack) : Trace catalog stack [] stack
  | visit {visit : Visit} {rest : List Visit} {last : Stack} (hvisit : visit.Obeys catalog)
      (hrest : Trace catalog visit.after rest last) : Trace catalog visit.before (visit :: rest) last

theorem Trace.append {first middle last : Stack} {earlier later : List Visit}
    (h : Trace catalog first earlier middle) (hlater : Trace catalog middle later last) :
    Trace catalog first (earlier ++ later) last := by
  induction h with
  | done => exact hlater
  | visit hvisit _ ih => exact .visit hvisit (ih hlater)

/-- A trace can be cut anywhere. -/
theorem Trace.split {first last : Stack} {earlier later : List Visit}
    (h : Trace catalog first (earlier ++ later) last) :
    ∃ middle, Trace catalog first earlier middle ∧ Trace catalog middle later last := by
  induction earlier generalizing first with
  | nil => exact ⟨first, .done first, h⟩
  | cons visit earlier ih =>
    cases h with
    | visit hvisit hrest =>
      obtain ⟨middle, hearlier, hlater⟩ := ih hrest
      exact ⟨middle, .visit hvisit hearlier, hlater⟩

/-- The visits of a turn lead from its first stack to its last. -/
theorem loop_trace (ceiling rounds : Nat) (progress : Progress) (asked : List Question) :
    Trace setting.catalog progress.stack (visits setting rounds progress asked)
      (loop setting ceiling rounds progress asked).1.1.stack := by
  induction rounds generalizing progress asked with
  | zero => exact .done progress.stack
  | succ rounds ih =>
    have hcases := visit?_cases setting progress asked
    rw [loop_succ, visits]
    rcases hiterate : iterate setting progress asked with ⟨⟨next, result⟩, asked'⟩
    rw [hiterate] at hcases
    rcases hcases with ⟨hnone, hsame, hended⟩ | ⟨call, hvisit, hobeys⟩
    · obtain ⟨result, rfl⟩ := Option.isSome_iff_exists.mp hended
      rw [hnone]
      obtain rfl : next = progress := hsame
      exact .done next.stack
    · rw [hvisit]
      cases result with
      | none => exact .visit hobeys (ih next asked')
      | some result => exact .visit hobeys (.done next.stack)

theorem selectAction_trace (ceiling : Nat) (stack : Stack) (conversation : Conversation)
    (asked : List Question) :
    Trace setting.catalog stack (visits setting ceiling ⟨stack, conversation, []⟩ asked)
      (selectAction setting ceiling stack conversation asked).1.1 := by
  rw [selectAction_apply]
  exact loop_trace ceiling ceiling ⟨stack, conversation, []⟩ asked

/-! ## The rest of a turn -/

theorem visits_succ_none {progress next : Progress} {asked asked' : List Question}
    (h : iterate setting progress asked = ((next, none), asked')) (rounds : Nat) :
    visits setting (rounds + 1) progress asked =
      (visit? setting progress asked).toList ++ visits setting rounds next asked' := by
  rw [visits, h]

theorem visits_succ_some {progress next : Progress} {result : Except FlowError Prediction}
    {asked asked' : List Question}
    (h : iterate setting progress asked = ((next, some result), asked')) (rounds : Nat) :
    visits setting (rounds + 1) progress asked = (visit? setting progress asked).toList := by
  rw [visits, h, List.append_nil]

/-- A turn goes on from where its first iterations stand. -/
theorem loop_add {n : Nat} {progress before : Progress} {asked log : List Question}
    (h : iterations setting n progress asked = ((before, none), log)) (ceiling m : Nat) :
    loop setting ceiling (n + m) progress asked = loop setting ceiling m before log ∧
      visits setting (n + m) progress asked =
        visits setting n progress asked ++ visits setting m before log := by
  induction n generalizing progress asked with
  | zero =>
    cases h
    rw [Nat.zero_add]
    exact ⟨rfl, rfl⟩
  | succ n ih =>
    rw [Nat.add_right_comm]
    rcases hstep : iterate setting progress asked with ⟨⟨next, result⟩, asked'⟩
    cases result with
    | none =>
      rw [iterations_succ_none hstep] at h
      rw [loop_succ, hstep, visits_succ_none hstep, visits_succ_none hstep, List.append_assoc]
      exact (ih h).imp_right fun hvisits => congrArg _ hvisits
    | some result =>
      rw [iterations_succ_some hstep] at h
      cases h

/-- What a visit is of the iteration that it is. -/
theorem visit?_eq_some {progress : Progress} {asked : List Question} {visit : Visit}
    (h : visit? setting progress asked = some visit) :
    visit = ⟨progress.stack, call? setting progress asked,
      (iterate setting progress asked).1.1.stack⟩ := by
  unfold visit? at h
  split at h
  · cases h
  · split at h
    · exact (Option.some.inj h).symm
    · cases h

/-- The first visit of a turn is its first iteration. -/
theorem visit?_of_visits {rounds : Nat} {progress : Progress} {asked : List Question}
    {visit : Visit} {later : List Visit}
    (h : visits setting (rounds + 1) progress asked = visit :: later) :
    visit? setting progress asked = some visit := by
  have hcases := visit?_cases setting progress asked
  rcases hstep : iterate setting progress asked with ⟨⟨next, result⟩, asked'⟩
  rw [hstep] at hcases
  rcases hcases with ⟨hnone, -, hended⟩ | ⟨call, hvisit, -⟩
  · obtain ⟨result, rfl⟩ := Option.isSome_iff_exists.mp hended
    rw [visits_succ_some hstep, hnone] at h
    cases h
  · rw [visits, hvisit] at h
    rw [hvisit]
    exact congrArg some (List.cons.inj h).1

/-- Where a turn stands at one of its visits. -/
theorem visits_split {rounds : Nat} {progress : Progress} {asked : List Question}
    {earlier later : List Visit} {visit : Visit}
    (h : visits setting rounds progress asked = earlier ++ visit :: later) :
    ∃ n before log, iterations setting n progress asked = ((before, none), log) ∧
      visit? setting before log = some visit ∧
      visits setting (rounds - n) before log = visit :: later := by
  induction rounds generalizing progress asked earlier with
  | zero => cases List.append_eq_nil_iff.mp h.symm |>.2
  | succ rounds ih =>
    cases earlier with
    | nil => exact ⟨0, progress, asked, rfl, visit?_of_visits h, h⟩
    | cons first earlier =>
      have hfirst := visit?_of_visits h
      rcases hstep : iterate setting progress asked with ⟨⟨next, result⟩, asked'⟩
      cases result with
      | some result =>
        rw [visits_succ_some hstep, hfirst] at h
        have hnone : [] = earlier ++ visit :: later := (List.cons.inj h).2
        cases List.append_eq_nil_iff.mp hnone.symm |>.2
      | none =>
        rw [visits_succ_none hstep, hfirst] at h
        obtain ⟨n, before, log, hreached, hvisit, hlater⟩ := ih (List.cons.inj h).2
        rw [← iterations_succ_none hstep] at hreached
        exact ⟨n + 1, before, log, hreached, hvisit, by rwa [Nat.add_sub_add_right]⟩

/-- The rest of a turn with a prediction, after iterations that gave no result. -/
theorem selectAction_rest {n ceiling : Nat} {stack after : Stack} {conversation : Conversation}
    {asked log : List Question} {before : Progress} {prediction : Prediction}
    (hreached : iterations setting n ⟨stack, conversation, []⟩ asked = ((before, none), log))
    (hturn : (selectAction setting ceiling stack conversation asked).1 =
      (after, .ok prediction)) :
    ∃ rounds ended, ceiling - n = rounds + 1 ∧
      (loop setting ceiling (rounds + 1) before log).1 = (ended, .ok prediction) ∧
      ended.stack = after := by
  have hlt : n < ceiling := by
    by_contra hle
    have hnone := iterations_none_of_le (Nat.le_of_not_lt hle) ⟨stack, conversation, []⟩ asked
      (congrArg (·.1.2) hreached)
    have herror := (congrArg Prod.snd hturn).symm.trans (selectAction_of_none hnone)
    cases herror
  obtain ⟨rounds, rfl⟩ : ∃ rounds, ceiling = n + (rounds + 1) := ⟨ceiling - n - 1, by omega⟩
  rw [selectAction_apply, (loop_add hreached _ _).1] at hturn
  obtain ⟨hstack, hresult⟩ := Prod.mk.inj hturn
  exact ⟨rounds, _, by omega, Prod.ext rfl hresult, hstack⟩

/-! ## Frames below the top -/

/-- A visit keeps the frames below the top. -/
theorem Visit.Obeys.below_suffix {visit : Visit} (h : visit.Obeys catalog) :
    visit.before ≠ [] ∧ visit.before.tail <:+ visit.after := by
  cases h with
  | halted => exact ⟨List.cons_ne_nil _ _, List.suffix_cons _ _⟩
  | stepped pushed =>
    refine ⟨List.cons_ne_nil _ _, ?_⟩
    exact (List.suffix_cons _ _).trans (List.suffix_append pushed _)
  | linked =>
    exact ⟨List.cons_ne_nil _ _, (List.suffix_cons _ _).trans (List.suffix_cons _ _)⟩
  | @ended top below =>
    refine ⟨List.cons_ne_nil _ _, ?_⟩
    show below <:+ Pattern.afterLast top (Pattern.afterInterrupt top below catalog) catalog
    rcases Pattern.patterns_cases top below catalog with h | ⟨-, flow, -, h⟩ | ⟨rfl, -, h⟩
    · exact h.symm ▸ List.suffix_refl below
    · exact h.symm ▸ List.suffix_cons _ below
    · exact List.nil_suffix

/-- A visit makes the stack lower only by ending the flow of the top frame. -/
theorem Visit.Obeys.finishes_of_lt {visit : Visit} (h : visit.Obeys catalog)
    (hlower : visit.after.length < visit.before.length) :
    visit.Finishes ∧ visit.after = visit.before.tail := by
  cases h with
  | halted | linked =>
    simp only [List.length_cons] at hlower
    omega
  | stepped pushed =>
    simp only [List.length_append, List.length_cons] at hlower
    omega
  | @ended top below outcome =>
    refine ⟨⟨outcome, rfl⟩, ?_⟩
    rcases Pattern.patterns_cases top below catalog with h | ⟨-, flow, -, h⟩ | ⟨rfl, -, h⟩
    · exact h
    all_goals
      dsimp only at hlower
      rw [h] at hlower
      simp at hlower

/-- Frames that are never on top stay as they are. -/
theorem Trace.keeps {stack last base : Stack} {seen : List Visit}
    (h : Trace catalog stack seen last) (hbase : base <:+ stack)
    (habove : ∀ visit ∈ seen, base.length < visit.before.length) :
    base <:+ last ∧ ∀ visit ∈ seen, base <:+ visit.after := by
  induction h with
  | done => exact ⟨hbase, fun _ hvisit => nomatch hvisit⟩
  | @visit visit rest last hvisit _ ih =>
    obtain ⟨htop, hrest⟩ := List.forall_mem_cons.mp habove
    obtain ⟨hne, hsuffix⟩ := hvisit.below_suffix
    have hbelow : base <:+ visit.before.tail := by
      obtain ⟨top, below, hbefore⟩ := List.exists_cons_of_ne_nil hne
      rw [hbefore] at hbase htop ⊢
      rcases List.suffix_cons_iff.mp hbase with heq | hsuffix
      · rw [heq] at htop
        exact absurd htop (Nat.lt_irrefl _)
      · exact hsuffix
    have hafter := hbelow.trans hsuffix
    obtain ⟨hlast, hseen⟩ := ih hafter hrest
    exact ⟨hlast, List.forall_mem_cons.mpr ⟨hafter, hseen⟩⟩

/-- The first visit finds the first stack. -/
theorem Trace.le_length {stack last : Stack} {seen : List Visit} {m : Nat}
    (h : Trace catalog stack seen last) (hleast : ∀ visit ∈ seen, m ≤ visit.before.length)
    (hseen : seen ≠ []) : m ≤ stack.length := by
  cases h with
  | done => exact absurd rfl hseen
  | visit => exact hleast _ List.mem_cons_self

/-- All visits of a trace do what a visit may do. -/
theorem Trace.obeys {stack last : Stack} {seen : List Visit} (h : Trace catalog stack seen last) :
    ∀ visit ∈ seen, visit.Obeys catalog := by
  induction h with
  | done => exact fun _ hvisit => nomatch hvisit
  | visit hvisit _ ih => exact List.forall_mem_cons.mpr ⟨hvisit, ih⟩

/-! ## A frame and those that it linked to -/

end Turn

namespace Stack

/-- The frames of flows that were linked to, at their start. -/
def linkFrames (linked : List String) : Stack := linked.map fun id => .atStart id .link

/-- The frame is on the stack, with its cursor anywhere, on those of the flows that it linked to, the
latest first, and these are on `below`. -/
def Holds (stack : Stack) (frame : Frame) (linked : List String) (below : Stack) : Prop :=
  ∃ above stepId, stack = above ++ { frame with stepId } :: (linkFrames linked ++ below)

theorem length_linkFrames (linked : List String) : (linkFrames linked).length = linked.length :=
  List.length_map _

end Stack

namespace Turn

/-- The flows that a frame has linked to after a visit, the latest first, where it stands on as many
frames as `linked` and `base` together; none if the visit ended it. -/
def Visit.linksAfter (base : Nat) (linked : List String) (visit : Visit) : Option (List String) :=
  if visit.before.length = base + linked.length + 1 then
    match visit.call with
    | some ⟨.finish, _⟩ => none
    | some ⟨.step ⟨_, .link id, _⟩, _⟩ => some (id :: linked)
    | _ => some linked
  else some linked

namespace Visit.Obeys

variable {frame : Frame} {linked : List String} {below : Stack} {visit : Visit}

/-- As long as a visit does not end the frame, it stays on the flows that it linked to. -/
theorem holds (h : visit.Obeys catalog) (hholds : visit.before.Holds frame linked below)
    {linked' : List String} (hlinks : visit.linksAfter below.length linked = some linked') :
    visit.after.Holds frame linked' below := by
  obtain ⟨above, stepId, hbefore⟩ := hholds
  cases above with
  | cons top above =>
    -- another frame is on top, and what is below it is kept
    have hhigher : visit.before.length ≠ below.length + linked.length + 1 := by
      rw [hbefore]
      simp only [List.length_append, List.length_cons, Stack.length_linkFrames]
      omega
    rw [linksAfter, if_neg hhigher, Option.some.injEq] at hlinks
    obtain ⟨pushed, hafter⟩ := h.below_suffix.2
    rw [hbefore, List.cons_append, List.tail_cons] at hafter
    refine ⟨pushed ++ above, stepId, ?_⟩
    rw [← hafter, hlinks, List.append_assoc]
  | nil =>
    have hheight : visit.before.length = below.length + linked.length + 1 := by
      rw [hbefore]
      simp only [List.nil_append, List.length_append, List.length_cons, Stack.length_linkFrames]
      omega
    rw [linksAfter, if_pos hheight] at hlinks
    cases h with
    | halted stepId' =>
      obtain ⟨rfl, rfl⟩ := List.cons.inj hbefore
      cases hlinks
      exact ⟨[], stepId', rfl⟩
    | @stepped _ _ step outcome pushed htask =>
      obtain ⟨rfl, rfl⟩ := List.cons.inj hbefore
      dsimp only at hlinks
      split at hlinks
      · cases hlinks
      · rename_i hcall
        cases hcall
        exact absurd rfl (htask _)
      · cases hlinks
        exact ⟨pushed, step.id, rfl⟩
    | @linked _ _ step outcome id htask =>
      obtain ⟨rfl, rfl⟩ := List.cons.inj hbefore
      obtain ⟨stepName, task, next⟩ := step
      obtain rfl : task = .link id := htask
      cases hlinks
      exact ⟨[], stepName, rfl⟩
    | ended => cases hlinks

/-- A visit that ends the frame finds it on top. -/
theorem finishes (hholds : visit.before.Holds frame linked below)
    (hlinks : visit.linksAfter below.length linked = none) :
    visit.Finishes ∧ ∃ stepId, visit.before =
      { frame with stepId } :: (Stack.linkFrames linked ++ below) := by
  unfold linksAfter at hlinks
  split at hlinks
  · rename_i hheight
    split at hlinks
    · rename_i outcome hcall
      refine ⟨⟨outcome, hcall⟩, ?_⟩
      obtain ⟨above, stepId, hbefore⟩ := hholds
      have hlength := congrArg List.length hbefore
      rw [hheight] at hlength
      simp only [List.length_append, List.length_cons, Stack.length_linkFrames] at hlength
      obtain rfl : above = [] := List.eq_nil_of_length_eq_zero (by omega)
      exact ⟨stepId, hbefore⟩
    all_goals cases hlinks
  · cases hlinks

end Visit.Obeys

/-- The frame stays on those of the flows that it linked to, and these on `below`, in every stack that
the visits leave and in the last one, or until a visit ends its flow. -/
def StaysOn (frame : Frame) (below : Stack) (seen : List Visit) (last : Stack) : Prop :=
  ((∀ visit ∈ seen, ∃ linked, visit.after.Holds frame linked below) ∧
    ∃ linked, last.Holds frame linked below) ∨
  ∃ between ending rest, seen = between ++ ending :: rest ∧
    (∀ visit ∈ between, ∃ linked, visit.after.Holds frame linked below) ∧ ending.Finishes ∧
    ∃ linked stepId, ending.before = { frame with stepId } :: (Stack.linkFrames linked ++ below)

theorem Trace.staysOn {frame : Frame} {linked : List String} {below stack last : Stack}
    {seen : List Visit} (h : Trace catalog stack seen last)
    (hholds : stack.Holds frame linked below) : StaysOn frame below seen last := by
  induction h generalizing linked with
  | done => exact Or.inl ⟨fun _ hvisit => (nomatch hvisit), linked, hholds⟩
  | @visit visit rest last hvisit _ ih =>
    cases hlinks : visit.linksAfter below.length linked with
    | none =>
      obtain ⟨hfinishes, stepId, hbefore⟩ := Visit.Obeys.finishes hholds hlinks
      exact Or.inr ⟨[], visit, rest, rfl, fun _ hvisit => (nomatch hvisit), hfinishes, linked,
        stepId, hbefore⟩
    | some linked' =>
      have hafter := hvisit.holds hholds hlinks
      rcases ih hafter with ⟨hrest, hlast⟩ | ⟨between, ending, later, rfl, hbetween, hending⟩
      · exact Or.inl ⟨List.forall_mem_cons.mpr ⟨⟨linked', hafter⟩, hrest⟩, hlast⟩
      · exact Or.inr ⟨visit :: between, ending, later, rfl,
          List.forall_mem_cons.mpr ⟨⟨linked', hafter⟩, hbetween⟩, hending⟩

/-! ## The discipline of a turn -/

/-- The visit interpreted a step that links to the flow. -/
def Visit.LinksTo (visit : Visit) (id : String) : Prop :=
  ∃ step outcome, visit.call = some ⟨.step step, outcome⟩ ∧ step.task = .link id

/-- A flow that is linked to comes directly below the frame that links to it. -/
theorem Visit.Obeys.linksTo {visit : Visit} (h : visit.Obeys catalog) {id : String}
    (hlinks : visit.LinksTo id) : ∃ top below stepId, visit.before = top :: below ∧
      visit.after = { top with stepId } :: .atStart id .link :: below := by
  obtain ⟨step, outcome, hcall, htask⟩ := hlinks
  cases h with
  | halted | ended => cases hcall
  | stepped _ hno =>
    cases hcall
    exact absurd htask (hno id)
  | @linked top below _ _ id' htask' =>
    cases hcall
    obtain rfl : id' = id := by
      rw [htask'] at htask
      exact Task.link.inj htask
    exact ⟨top, below, step.id, rfl, rfl⟩

end Turn

/-- The lowest frames of a stack, at most so many. -/
def Stack.lowest (n : Nat) (stack : Stack) : Stack := List.drop (List.length stack - n) stack

theorem Stack.lowest_of_suffix {base stack : Stack} (h : base <:+ stack) :
    stack.lowest base.length = base := (List.suffix_iff_eq_drop.mp h).symm

theorem Stack.length_lowest {n : Nat} {stack : Stack} (h : n ≤ stack.length) :
    (stack.lowest n).length = n := by
  have hdrop : (stack.lowest n).length = stack.length - (stack.length - n) := List.length_drop
  omega

namespace Turn

/-- The breaker carries the stack that the turn leaves. -/
theorem carried_eq {ceiling : Nat} {stack carried : Stack} {conversation : Conversation}
    {asked : List Question} {steps : Nat}
    (h : (selectAction setting ceiling stack conversation asked).1.2 =
      .error (.circuitBreakerTripped carried steps)) :
    carried = (selectAction setting ceiling stack conversation asked).1.1 := by
  rw [selectAction_apply] at h ⊢
  have hkeeps : ∀ progress outcome, True → Iteration setting progress outcome → True :=
    fun _ _ h _ => h
  obtain ⟨-, htripped | ⟨before, -, hiteration⟩⟩ :=
    loop_cases hkeeps ceiling ceiling ⟨stack, conversation, []⟩ trivial asked
  · rw [h] at htripped
    cases htripped
    rfl
  · exact absurd ⟨carried, steps, h⟩ hiteration.not_tripped

/-- Let `m` be the least height of the stack at the visits of a turn. Every stack that a visit or the
turn leaves, and the one that the breaker carries, has the same `m - 1` lowest frames as the first;
a visit that leaves no others ended the flow of the frame on them. And a visit that links to a flow
puts a frame for it on the frames that were below the running one, where it stays at its start below
the running frame, at least until the flow of that has ended. -/
theorem turn_keeps_lowest (setting : Setting) (ceiling : Nat) (stack : Stack)
    (conversation : Conversation) (asked : List Question) :
    let seen := visits setting ceiling ⟨stack, conversation, []⟩ asked
    let ended := (selectAction setting ceiling stack conversation asked).1
    (∀ m, (seen.map (·.before.length)).min? = some m →
      0 < m ∧ m ≤ stack.length ∧
      (∀ visit ∈ seen, visit.after.lowest (m - 1) = stack.lowest (m - 1) ∧
        (visit.after.length < m →
          visit.Finishes ∧ visit.before.length = m ∧ visit.after = stack.lowest (m - 1))) ∧
      ended.1.lowest (m - 1) = stack.lowest (m - 1) ∧
      ∀ carried steps, ended.2 = .error (.circuitBreakerTripped carried steps) →
        carried.lowest (m - 1) = stack.lowest (m - 1)) ∧
    ∀ earlier visit later id, seen = earlier ++ visit :: later → visit.LinksTo id →
      ∃ top below stepId, visit.before = top :: below ∧
        visit.after = { top with stepId } :: .atStart id .link :: below ∧
        StaysOn top (.atStart id .link :: below) later ended.1 := by
  intro seen ended
  have htrace : Trace setting.catalog stack seen ended.1 :=
    selectAction_trace ceiling stack conversation asked
  refine ⟨fun m hm => ?_, fun earlier visit later id hseen hlinks => ?_⟩
  · obtain ⟨hmem, hleast⟩ := List.min?_eq_some_iff.mp hm
    rw [List.forall_mem_map] at hleast
    have hpositive : 0 < m := by
      obtain ⟨visit, hvisit, rfl⟩ := List.mem_map.mp hmem
      exact List.length_pos_of_ne_nil (htrace.obeys visit hvisit).below_suffix.1
    have hstack : m ≤ stack.length := by
      obtain ⟨first, hfirst, -⟩ := List.mem_map.mp hmem
      exact htrace.le_length hleast (List.ne_nil_of_mem hfirst)
    have hlength : (stack.lowest (m - 1)).length = m - 1 := Stack.length_lowest (by omega)
    have hsuffix : stack.lowest (m - 1) <:+ stack := List.drop_suffix _ _
    have habove : ∀ visit ∈ seen, (stack.lowest (m - 1)).length < visit.before.length := by
      intro visit hvisit
      have hheight := hleast visit hvisit
      omega
    obtain ⟨hlast, hafter⟩ := htrace.keeps hsuffix habove
    have hlowest : ∀ other : Stack, stack.lowest (m - 1) <:+ other →
        other.lowest (m - 1) = stack.lowest (m - 1) := by
      intro other hother
      have hsame := Stack.lowest_of_suffix hother
      rwa [hlength] at hsame
    refine ⟨hpositive, hstack, fun visit hvisit => ⟨hlowest _ (hafter visit hvisit), ?_⟩,
      hlowest _ hlast, fun carried steps hcarried => ?_⟩
    · intro hlower
      have hheight := hleast visit hvisit
      obtain ⟨hfinishes, htail⟩ :=
        (htrace.obeys visit hvisit).finishes_of_lt (Nat.lt_of_lt_of_le hlower hheight)
      have htailLength : visit.after.length = visit.before.length - 1 := by
        rw [htail, List.length_tail]
      refine ⟨hfinishes, by omega, ?_⟩
      exact ((hafter visit hvisit).eq_of_length (by omega)).symm
    · rw [carried_eq hcarried]
      exact hlowest _ hlast
  · rw [hseen] at htrace
    obtain ⟨middle, -, htrace⟩ := htrace.split
    cases htrace with
    | visit hvisit hlater =>
      obtain ⟨top, below, stepId, hbefore, hafter⟩ := hvisit.linksTo hlinks
      have hholds : visit.after.Holds top [] (.atStart id .link :: below) := ⟨[], stepId, hafter⟩
      exact ⟨top, below, stepId, hbefore, hafter, hlater.staysOn hholds⟩

/-- The order flow links to the payment on top of another payment, which stays as it is. -/
theorem order_turn_keeps_lowest :
    let setting : Setting :=
      ⟨Pattern.addTo Catalog.order, "utter_thanks" :: Domain.builtIn, plainServices⟩
    let order : Frame := ⟨"order", "size", .regular, none⟩
    let paid : Frame := ⟨"pay", "thank", .regular, none⟩
    let start : Progress := ⟨[order, paid], .fresh "user" .empty, []⟩
    let seen := visits setting 9 start []
    let ended := (selectAction setting 9 start.stack start.conversation []).1
    (seen.map (·.before.length)).min? = some 2 ∧ ended.1.lowest 1 = [paid] ∧
    ∃ visit later, seen = visit :: later ∧ visit.LinksTo "pay" ∧
      StaysOn order [.atStart "pay" .link, paid] later ended.1 := by
  intro setting order paid start seen ended
  obtain ⟨hlowest, hlinks⟩ := turn_keeps_lowest setting 9 [order, paid] (.fresh "user" .empty) []
  have hm : (seen.map (·.before.length)).min? = some 2 := by decide +kernel
  obtain ⟨-, -, -, hlast, -⟩ := hlowest 2 hm
  have hfirst : seen.head?.map (fun visit => (visit.before, visit.call)) =
      some ([order, paid], some ⟨.step ⟨"to_pay", .link "pay", []⟩, .proceed []⟩) := by
    decide +kernel
  obtain ⟨visit, hvisit, heq⟩ := Option.map_eq_some_iff.mp hfirst
  obtain ⟨later, hseen⟩ := List.head?_eq_some_iff.mp hvisit
  obtain ⟨hstack, hcall⟩ := Prod.mk.inj heq
  have hlinksTo : visit.LinksTo "pay" := ⟨_, _, hcall, rfl⟩
  obtain ⟨top, below, stepId, hbefore, -, hstays⟩ := hlinks [] visit later "pay" hseen hlinksTo
  obtain ⟨rfl, rfl⟩ := List.cons.inj (hbefore.symm.trans hstack)
  exact ⟨hm, hlast, visit, later, hseen, hlinksTo, hstays⟩

end Turn

end DialogueFlow
