/-
  Turns that stall. In a sound flow whose links are filled in, a node has no next one exactly if it
  has links, none of them is certain to be taken, and no condition holds (`nextNode_eq_none_iff`).
  The turn then stays where it is: every iteration that is left asks the same and comes to nothing
  (`Stalls.loop`). Main statement: `stalled_turn_trips`.
-/
import DialogueFlow.Proofs.Catalog.Cycles
import DialogueFlow.Proofs.Turn.Choice
import DialogueFlow.Proofs.Turn.Endings

namespace DialogueFlow

namespace Selection

open Condition

variable {services : Services} {context : Table Json} {conversation : Conversation}
  {asked : List Question}

/-- Where answers depend on the question alone, it does not matter when a condition is decided. -/
theorem rejects_iff_of_steady (hsteady : services.evaluator.Steady) (asked log : List Question)
    (links : List Link) :
    Rejects services context conversation asked links ↔
      ∀ condition target, .when condition target ∈ links → Text.isBlankText condition = false →
        (holds services condition context conversation log).1 = false := by
  have hsame : ∀ condition log', (holds services condition context conversation log').1 =
      (holds services condition context conversation log).1 :=
    fun condition log' => steady_holds hsteady condition context conversation log' log
  constructor
  · intro h condition target hlink hblank
    obtain ⟨earlier, later, heq⟩ :=
      List.append_of_mem (mem_conditions.mpr ⟨hblank, target, hlink⟩)
    rw [← hsame condition]
    exact h earlier condition later heq
  · intro h earlier condition later heq
    have hmem : condition ∈ conditions links := by
      rw [heq]
      exact List.mem_append_right _ List.mem_cons_self
    obtain ⟨hblank, target, hlink⟩ := mem_conditions.mp hmem
    rw [hsame]
    exact h condition target hlink hblank

variable {flow : Flow} {current : Node}

/-- No node comes next, and all conditions of the links were decided to find that. -/
theorem nextNode_of_rejects (hlinked : current.next ≠ [])
    (hconditional : ∀ target, current.next ≠ [.always target])
    (hunmatched : ∀ target, .otherwise target ∉ current.next) {stack : Stack}
    (hrejects : Rejects services stack.context conversation asked current.next) (flow : Flow) :
    nextNode services current flow stack conversation asked =
      (none, logAfter services stack.context conversation asked (conditions current.next)) := by
  rw [nextNode_apply, nextId_of_rejects hconditional hrejects,
    fallback?_eq_none_iff.mpr hunmatched, if_neg hlinked]
  rfl

/-- In a sound flow with its links filled in, a node has no next one exactly if it has links, but
neither a single unconditional one nor a fallback, and no condition holds. -/
theorem nextNode_eq_none_iff (hflow : flow.Sound) (hfalls : flow.FallsThrough)
    (hcurrent : flow.HasCurrent current) (services : Services) (stack : Stack)
    (conversation : Conversation) (asked : List Question) :
    (nextNode services current flow stack conversation asked).1 = none ↔
      current.next ≠ [] ∧ (∀ target, current.next ≠ [.always target]) ∧
        (∀ target, .otherwise target ∉ current.next) ∧
        Rejects services stack.context conversation asked current.next := by
  constructor
  · intro h
    have hid := nextNode_eq_none hflow hcurrent h
    obtain ⟨step, -, rfl, hopen⟩ := isOpen_of_nextId_eq_none hflow hfalls hcurrent hid
    have hconditional : ∀ target, (Node.step step).next ≠ [.always target] := hopen.conditional
    rw [nextId_choice hconditional] at hid
    obtain ⟨hfirst, -⟩ := Option.or_eq_none_iff.mp hid
    exact ⟨hopen.linked, hconditional, hopen.unmatched, (firstHolding_eq_none_iff _ _).mp hfirst⟩
  · rintro ⟨hlinked, hconditional, hunmatched, hrejects⟩
    rw [nextNode_of_rejects hlinked hconditional hunmatched hrejects]

end Selection

namespace Turn

open Selection

variable {setting : Setting} {progress : Progress} {asked : List Question}

/-- On a placed stack the turn is over, or the top frame is at a node of its flow. -/
theorem idle_or_at {catalog : Catalog} (hcatalog : catalog.Sound) {stack : Stack}
    (h : stack.Placed catalog) :
    Idle stack ∨ ∃ top below flow current, At catalog stack top below flow current := by
  cases stack with
  | nil => exact Or.inl fun top below heq => nomatch heq
  | cons top below =>
    cases hkind : top.kind.isFlow with
    | false =>
      refine Or.inl fun other rest heq => ?_
      obtain ⟨rfl, -⟩ := List.cons.inj heq
      exact hkind
    | true =>
      obtain ⟨flow, hflow, hcursor⟩ := h top List.mem_cons_self hkind
      have hsound := hcatalog.flows flow (Catalog.mem_of_flow? hflow)
      obtain ⟨current, hcurrent, -⟩ := Flow.node?_cursor hsound hcursor
      exact Or.inr ⟨top, below, flow, current, rfl, hkind, hflow, hcurrent⟩

/-- The node at the cursor of the top frame has links, but none of them is taken, whatever was asked
before. -/
structure Stalls (setting : Setting) (progress : Progress) (top : Frame) (below : Stack)
    (flow : Flow) (current : Node) : Prop where
  stands : At setting.catalog progress.stack top below flow current
  linked : current.next ≠ []
  conditional : ∀ target, current.next ≠ [.always target]
  unmatched : ∀ target, .otherwise target ∉ current.next
  rejected : ∀ asked, Rejects setting.services progress.stack.context progress.conversation asked
    current.next

namespace Stalls

variable {top : Frame} {below : Stack} {flow : Flow} {current : Node}
  (h : Stalls setting progress top below flow current)
include h

theorem nextNode (asked : List Question) :
    Selection.nextNode setting.services current flow progress.stack progress.conversation asked =
      (none, Condition.logAfter setting.services progress.stack.context progress.conversation asked
        (conditions current.next)) :=
  nextNode_of_rejects h.linked h.conditional h.unmatched (h.rejected asked) flow

/-- An iteration only decides the conditions of the node. -/
theorem iterate (asked : List Question) :
    Turn.iterate setting progress asked = ((progress, none),
      Condition.logAfter setting.services progress.stack.context progress.conversation asked
        (conditions current.next)) := by
  rw [iterate_at h.stands, interpret, Asking.bind_apply, h.nextNode]
  rfl

/-- It interprets no node. -/
theorem visit? (asked : List Question) :
    Turn.visit? setting progress asked = some ⟨progress.stack, none, progress.stack⟩ := by
  have hcall : call? setting progress asked = none := by
    cases hmade : call? setting progress asked with
    | none => rfl
    | some made =>
      have hnext := nextNode_of_call? h.stands hmade
      rw [h.nextNode] at hnext
      cases hnext
  rw [visit?_at h.stands, hcall, h.iterate]

/-- All iterations that are left stay at the node, and then the breaker trips. -/
theorem loop (ceiling rounds : Nat) (asked : List Question) :
    (∃ made, Turn.loop setting ceiling rounds progress asked =
      ((progress, .error (.circuitBreakerTripped progress.stack (ceiling + 1))), made ++ asked) ∧
      ∀ prompt config state, .generate prompt config state ∉ made) ∧
    visits setting rounds progress asked =
      List.replicate rounds ⟨progress.stack, none, progress.stack⟩ := by
  induction rounds generalizing asked with
  | zero => exact ⟨⟨[], rfl, by simp⟩, rfl⟩
  | succ rounds ih =>
    have hiterate := h.iterate asked
    obtain ⟨made, hmade, hnone⟩ := Condition.logAfter_extends setting.services
      progress.stack.context progress.conversation asked (conditions current.next)
    rw [hmade] at hiterate
    obtain ⟨⟨later, hloop, hlater⟩, hvisits⟩ := ih (made ++ asked)
    refine ⟨⟨later ++ made, ?_, ?_⟩, ?_⟩
    · rw [loop_succ, hiterate, List.append_assoc]
      exact hloop
    · intro prompt config state hmem
      rcases List.mem_append.mp hmem with hmem | hmem
      · exact hlater prompt config state hmem
      · exact hnone prompt config state hmem
    · rw [visits_succ_none hiterate, h.visit?, hvisits]
      rfl

end Stalls

/-- In a turn over a loaded catalog, where the answers of the evaluator depend on the question
alone, an iteration at a frame of a flow finds no next node exactly if the node at its cursor has
links, but neither a single unconditional one nor a fallback, and no condition that is not blank
holds under the context of the frame. The turn then ends by the breaker, with the stack of that
iteration; none of the iterations that are left interprets a node, and no text is generated in
them. -/
theorem stalled_turn_trips {text : String} {declared : Catalog}
    (hload : Catalog.load text = .ok declared) (actions : List String) {services : Services}
    (hsteady : services.evaluator.Steady) {stack : Stack}
    (hplaced : stack.Placed (Pattern.addTo declared)) {conversation : Conversation}
    {asked log : List Question} {n ceiling : Nat} (hn : n < ceiling) {before : Progress}
    (hreached : iterations ⟨Pattern.addTo declared, actions, services⟩ n ⟨stack, conversation, []⟩
      asked = ((before, none), log)) :
    let setting : Setting := ⟨Pattern.addTo declared, actions, services⟩
    let start : Progress := ⟨stack, conversation, []⟩
    Idle before.stack ∨ ∃ top below flow current,
      At setting.catalog before.stack top below flow current ∧
      let next := (Selection.nextNode services current flow before.stack before.conversation log).1
      (next = none ↔ current.next ≠ [] ∧ (∀ target, current.next ≠ [.always target]) ∧
        (∀ target, .otherwise target ∉ current.next) ∧
        ∀ condition target, .when condition target ∈ current.next →
          Text.isBlankText condition = false →
          (Condition.holds services condition (top.context.getD []) before.conversation log).1 =
            false) ∧
      (next = none →
        (∃ made, selectAction setting ceiling stack conversation asked =
          ((before.stack, .error (.circuitBreakerTripped before.stack (ceiling + 1))),
            made ++ log) ∧
          ∀ prompt config state, .generate prompt config state ∉ made) ∧
        visits setting ceiling start asked = visits setting n start asked ++
          List.replicate (ceiling - n) ⟨before.stack, none, before.stack⟩) := by
  intro setting start
  have hcatalog : setting.catalog.Executable :=
    Pattern.executable_addTo (Catalog.sound_of_load hload)
  have hbefore : before.stack.Placed setting.catalog :=
    iterations_placed hcatalog hplaced hreached
  rcases idle_or_at hcatalog.sound hbefore with hidle | ⟨top, below, flow, current, hat⟩
  · exact Or.inl hidle
  obtain ⟨hflow, hsound, hcurrent, -⟩ := hat.hasCurrent hcatalog hbefore
  have hfalls : flow.FallsThrough :=
    Pattern.fallsThrough_addTo (Catalog.fallsThrough_of_load hload) flow hflow
  have hcontext : before.stack.context = top.context.getD [] := hat.context_eq
  have hrejects : ∀ asked, Rejects services before.stack.context before.conversation asked
      current.next ↔ _ := fun asked => rejects_iff_of_steady hsteady asked log current.next
  have hnone := nextNode_eq_none_iff hsound hfalls hcurrent services before.stack
    before.conversation log
  rw [hrejects log, hcontext] at hnone
  refine Or.inr ⟨top, below, flow, current, hat, hnone, fun hnext => ?_⟩
  obtain ⟨hlinked, hconditional, hunmatched, hholds⟩ := hnone.mp hnext
  have hstalls : Stalls setting before top below flow current :=
    ⟨hat, hlinked, hconditional, hunmatched, fun asked => (hrejects asked).mpr (hcontext ▸ hholds)⟩
  obtain ⟨m, rfl⟩ : ∃ m, ceiling = n + m := ⟨ceiling - n, by omega⟩
  obtain ⟨hloop, hvisits⟩ := loop_add hreached (n + m) m
  obtain ⟨⟨made, hmade, hnothing⟩, hreplicate⟩ := hstalls.loop (n + m) m log
  refine ⟨⟨made, ?_, hnothing⟩, ?_⟩
  · rw [selectAction_apply, hloop, hmade]
  · rw [hvisits, hreplicate, Nat.add_sub_cancel_left]

/-- The text of a catalog whose flow branches over a size. An unconditional link stands beside the
condition, and no fallback. -/
def pickingText : String :=
  "\x7b\"flows\":[\x7b\"id\":\"pick\",\"steps\":[\x7b\"id\":\"by_size\",\"type\":\"branch\"," ++
  "\"next\":[\x7b\"kind\":\"if\",\"condition\":\"size == 'large'\",\"target\":\"END\"\x7d," ++
  "\x7b\"kind\":\"static\",\"target\":\"END\"\x7d]\x7d]\x7d]\x7d"

/-- The branch of that text. -/
def bySize : Step :=
  ⟨"by_size", .branch, [.when "size == 'large'" endId, .always endId]⟩

/-- The catalog of that text. -/
def picking : Catalog :=
  [.ofDeclared "pick" none [bySize]]

/-- For another size the branch leads nowhere. -/
theorem picking_trips :
    let setting : Setting := ⟨Pattern.addTo picking, Domain.builtIn, Templated.services⟩
    let conversation := (Conversation.fresh "user" .empty).record (.slotSet "size" (.str "small"))
    let stack : Stack := [.atStart "pick" .regular]
    let stuck : Stack := [⟨"pick", "by_size", .regular, none⟩]
    Catalog.load pickingText = .ok picking ∧
    iterations setting 1 ⟨stack, conversation, []⟩ [] = ((⟨stuck, conversation, []⟩, none), []) ∧
    (selectAction setting 3 stack conversation []).1 =
      (stuck, .error (.circuitBreakerTripped stuck 4)) ∧
    visits setting 3 ⟨stack, conversation, []⟩ [] =
      visits setting 1 ⟨stack, conversation, []⟩ [] ++ List.replicate 2 ⟨stuck, none, stuck⟩ := by
  intro setting conversation stack stuck
  have hchars : pickingText.toList = _ :=
    Json.toList_append (Json.toList_append String.toList_ofList String.toList_ofList)
      String.toList_ofList
  have hload : Catalog.load pickingText = .ok picking := by
    rw [Catalog.load, Json.parse?_of_toList hchars]
    decide +kernel
  have hplaced : stack.Placed (Pattern.addTo picking) :=
    (Stack.placed_nil _).push rfl (by decide)
  have hstart : At setting.catalog stack (.atStart "pick" .regular) []
    (.ofDeclared "pick" none [bySize]) (.start "by_size") := ⟨rfl, rfl, rfl, rfl⟩
  have hstuck : At setting.catalog stuck ⟨"pick", "by_size", .regular, none⟩ []
    (.ofDeclared "pick" none [bySize]) (.step bySize) := ⟨rfl, rfl, rfl, rfl⟩
  have hfirst : Selection.nextNode Templated.services (.start "by_size")
      (.ofDeclared "pick" none [bySize]) stack conversation [] = (some (.step bySize), []) :=
    nextNode_single rfl rfl _ _ _ []
  have hrun : Interpreter.run setting (.ofDeclared "pick" none [bySize]) (.step bySize)
      (stack.moveTo "by_size") conversation [] = (.ok (.proceed [], stuck), []) :=
    run_branch rfl _ _ []
  have hiterate : iterate setting ⟨stack, conversation, []⟩ [] =
      ((Progress.advance ⟨stack, conversation, []⟩ stuck [], none), []) := by
    rw [iterate_at hstart]
    exact interpret_proceed hfirst hrun
  have hreached : iterations setting 1 ⟨stack, conversation, []⟩ [] =
      ((⟨stuck, conversation, []⟩, none), []) := iterations_succ_none hiterate 0
  have hnext : (Selection.nextNode Templated.services (.step bySize)
      (.ofDeclared "pick" none [bySize]) stuck conversation []).1 = none := by decide +kernel
  have hleft : 1 < 3 := by decide
  rcases stalled_turn_trips hload Domain.builtIn Templated.steady_services.evaluator hplaced
    hleft hreached with hidle | ⟨top, below, flow, current, hat, -, htrips⟩
  · cases hidle _ _ rfl
  · obtain ⟨rfl, rfl, rfl, rfl⟩ := hat.unique hstuck
    obtain ⟨⟨made, hmade, -⟩, hvisits⟩ := htrips hnext
    exact ⟨hload, hreached, congrArg Prod.fst hmade, hvisits⟩

end Turn

end DialogueFlow
