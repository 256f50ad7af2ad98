/-
  Which nodes can come next. `nextNode_some`: in a sound flow, the node after one at which a cursor
  may stand is the end, or a declared step that a link of that node names. `nextId_eq_none`: a node
  without a next one has no single unconditional link, no fallback, and is no link step without
  links.
-/
import DialogueFlow.Selection
import DialogueFlow.Proofs.Catalog.Soundness

namespace DialogueFlow.Selection

variable {services : Services} {context : Table Json} {conversation : Conversation}

theorem firstHolding_mem {links : List Link} {asked : List Question} {target : String}
    (h : (firstHolding services context conversation links asked).1 = some target) :
    ∃ link ∈ links, link.target = target := by
  induction links generalizing asked with
  | nil => cases h
  | cons link rest ih =>
    have hrest : ∀ {asked},
        (firstHolding services context conversation rest asked).1 = some target →
          ∃ link' ∈ link :: rest, link'.target = target := by
      intro asked h
      obtain ⟨found, hfound, htarget⟩ := ih h
      exact ⟨found, List.mem_cons_of_mem _ hfound, htarget⟩
    cases link with
    | when condition goal =>
      rw [firstHolding] at h
      split at h
      · exact hrest h
      · rw [Asking.bind_apply] at h
        split at h
        · rw [Asking.pure_apply, Option.some.injEq] at h
          exact ⟨_, List.mem_cons_self, h⟩
        · exact hrest h
    | always _ => exact hrest h
    | otherwise _ => exact hrest h

theorem fallback?_mem {links : List Link} {target : String} (h : fallback? links = some target) :
    .otherwise target ∈ links := by
  obtain ⟨link, hlink, hfound⟩ := List.exists_of_findSome?_eq_some h
  cases link with
  | otherwise goal =>
    cases hfound
    exact hlink
  | _ => cases hfound

theorem fallback?_eq_none_iff {links : List Link} :
    fallback? links = none ↔ ∀ target, .otherwise target ∉ links := by
  constructor
  · intro h target hmem
    have := List.findSome?_eq_none_iff.mp h _ hmem
    cases this
  · intro h
    refine List.findSome?_eq_none_iff.mpr fun link hlink => ?_
    cases link with
    | otherwise goal => exact absurd hlink (h goal)
    | _ => rfl

/-- A single unconditional link is taken, and nothing is asked. -/
theorem nextId_single {node : Node} {target : String} (h : node.next = [.always target])
    (asked : List Question) :
    nextId services node context conversation asked = (some target, asked) := by
  unfold nextId
  rw [h]
  rfl

/-- Otherwise the first link that holds is taken, then the first fallback, then the end after a link
step without links. -/
theorem nextId_choice {node : Node} (h : ∀ target, node.next ≠ [.always target])
    (asked : List Question) :
    nextId services node context conversation asked =
      let held := firstHolding services context conversation node.next asked
      (held.1.or ((fallback? node.next).or (if node.next = [] then withoutLinks node else none)),
        held.2) := by
  unfold nextId
  generalize node.next = links at h ⊢
  split
  · rename_i target
    exact absurd rfl (h target)
  · rw [Asking.bind_apply]
    dsimp only
    cases (firstHolding services context conversation links asked).1 with
    | some target => rfl
    | none => cases fallback? links <;> rfl

theorem withoutLinks_some {node : Node} {id : String} (h : withoutLinks node = some id) :
    id = endId := by
  unfold withoutLinks at h
  split at h
  · exact (Option.some.inj h).symm
  · cases h

/-- The next id is the target of a link, or the end after a link step without links. -/
theorem nextId_some {node : Node} {asked : List Question} {id : String}
    (h : (nextId services node context conversation asked).1 = some id) :
    (∃ link ∈ node.next, link.target = id) ∨ id = endId := by
  by_cases hsingle : ∃ target, node.next = [.always target]
  · obtain ⟨target, hnext⟩ := hsingle
    rw [nextId_single hnext, Option.some.injEq] at h
    exact Or.inl ⟨.always target, by simp [hnext], h⟩
  · rw [nextId_choice (not_exists.mp hsingle)] at h
    rcases Option.or_eq_some_iff.mp h with hholding | ⟨-, h⟩
    · exact Or.inl (firstHolding_mem hholding)
    · rcases Option.or_eq_some_iff.mp h with hfallback | ⟨-, h⟩
      · exact Or.inl ⟨.otherwise id, fallback?_mem hfallback, rfl⟩
      · split at h
        · exact Or.inr (withoutLinks_some h)
        · cases h

/-- What a node is like when nothing comes next. -/
theorem nextId_eq_none {node : Node} {asked : List Question}
    (h : (nextId services node context conversation asked).1 = none) :
    (∀ target, node.next ≠ [.always target]) ∧ (∀ target, .otherwise target ∉ node.next) ∧
      (node.next = [] → withoutLinks node = none) := by
  by_cases hsingle : ∃ target, node.next = [.always target]
  · obtain ⟨target, hnext⟩ := hsingle
    rw [nextId_single hnext] at h
    cases h
  · have hnot := not_exists.mp hsingle
    rw [nextId_choice hnot] at h
    obtain ⟨-, h⟩ := Option.or_eq_none_iff.mp h
    obtain ⟨hfallback, h⟩ := Option.or_eq_none_iff.mp h
    refine ⟨hnot, fallback?_eq_none_iff.mp hfallback, fun hnil => ?_⟩
    rw [if_pos hnil] at h
    exact h

theorem nextNode_apply (node : Node) (flow : Flow) (stack : Stack) (asked : List Question) :
    nextNode services node flow stack conversation asked =
      (((nextId services node stack.context conversation asked).1).bind flow.node?,
        (nextId services node stack.context conversation asked).2) := by
  rw [nextNode, Asking.bind_apply]
  cases (nextId services node stack.context conversation asked).1 <;> rfl

/-- From its start a flow comes to its first node, and nothing is asked. -/
theorem nextNode_first (flow : Flow) (stack : Stack) (asked : List Question) :
    nextNode services (.start flow.firstId) flow stack conversation asked =
      (flow.node? flow.firstId, asked) := by
  rw [nextNode_apply, nextId_single rfl]
  rfl

variable {flow : Flow} {current node : Node} {stack : Stack} {asked : List Question}

/-- The next node is the end, or a declared step that a link names. -/
theorem nextNode_some (hflow : flow.Sound) (hcurrent : flow.HasCurrent current)
    (h : (nextNode services current flow stack conversation asked).1 = some node) :
    node = .finish ∨
      ∃ step ∈ flow.declared, node = .step step ∧ ∃ link ∈ current.next, link.target = step.id := by
  rw [nextNode_apply] at h
  obtain ⟨id, hid, hnode⟩ := Option.bind_eq_some_iff.mp h
  rcases nextId_some hid with ⟨link, hlink, rfl⟩ | rfl
  · obtain ⟨found, hfound, hruns, hfoundId⟩ := Flow.node?_next hflow hcurrent hlink
    obtain rfl : found = node := Option.some.inj (hfound.symm.trans hnode)
    rcases hruns with rfl | ⟨step, hstep, rfl⟩
    · exact Or.inl rfl
    · exact Or.inr ⟨step, hstep, rfl, link, hlink, hfoundId.symm⟩
  · rw [Flow.node?_endId hflow, Option.some.injEq] at hnode
    exact Or.inl hnode.symm

/-- In a sound flow nothing comes next only because no link was chosen. -/
theorem nextNode_eq_none (hflow : flow.Sound) (hcurrent : flow.HasCurrent current)
    (h : (nextNode services current flow stack conversation asked).1 = none) :
    (nextId services current stack.context conversation asked).1 = none := by
  rw [nextNode_apply] at h
  cases hid : (nextId services current stack.context conversation asked).1 with
  | none => rfl
  | some id =>
    simp only [hid, Option.bind_some] at h
    rcases nextId_some hid with ⟨link, hlink, rfl⟩ | rfl
    · obtain ⟨found, hfound, -⟩ := Flow.node?_next hflow hcurrent hlink
      rw [hfound] at h
      cases h
    · rw [Flow.node?_endId hflow] at h
      cases h

end DialogueFlow.Selection
