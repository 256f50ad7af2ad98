/-
  What arguments are read as. Options that can be read ask for no help, so a request for help is
  never taken for a command, nor a command for one (`ofCommand?_of_readOptions?`). What can be asked
  for beside help and the version is one of the three commands, with the slots of an `advance` read
  from its options one by one (`ofArguments?_cases`).
-/
import DialogueFlow.Command.Request
import Mathlib.Tactic.Common

namespace DialogueFlow.Command

variable {command : Command} {arguments : List String}

/-! ## Help -/

/-- Only an option asks for help. -/
theorem asksForHelp_eq_false {argument : String} (h : isOption argument = false) :
    asksForHelp argument = false := by
  unfold isOption at h
  unfold asksForHelp asksFor
  split at h
  · cases h
  · rfl

/-- An argument that asks for help is no option of a command, or has the name of help. -/
theorem splitOption?_of_asksForHelp {argument : String} (h : asksForHelp argument = true) :
    splitOption? argument = none ∨ splitOption? argument = some ("help", none) := by
  unfold asksForHelp asksFor at h
  split at h
  · rename_i c rest hargument
    rw [Bool.or_eq_true, decide_eq_true_eq, decide_eq_true_eq] at h
    rcases h with rfl | rfl
    · left
      rw [splitOption?, hargument]
      rfl
    · right
      decide +kernel
  · cases h

/-- An option with another name asks for no help. -/
theorem asksForHelp_of_splitOption? {argument name : String} {value : Option String}
    (h : splitOption? argument = some (name, value)) (hname : name ≠ "help") :
    asksForHelp argument = false := by
  refine Bool.of_not_eq_true fun hasks => ?_
  rcases splitOption?_of_asksForHelp hasks with hnone | hhelp
  · cases hnone.symm.trans h
  · cases hhelp.symm.trans h
    exact hname rfl

/-- Options that can be read ask for no help, unless one of them has that name. -/
theorem asksForHelp_of_readOptions? {names : OptionNames} (hvalued : "help" ∉ names.valued)
    (hflags : "help" ∉ names.flags) {given found : Given}
    (h : readOptions? names given arguments = some found) :
    ∀ argument ∈ arguments, asksForHelp argument = false := by
  fun_induction readOptions? names given arguments with
  | case1 given => exact fun _ hargument => nomatch hargument
  | case2 given => exact List.forall_mem_singleton.mpr (by decide +kernel)
  | case5 given argument rest hend name hmay hname hsplit ih =>
    have hoption := asksForHelp_of_splitOption? hsplit (ne_of_mem_of_not_mem hname hflags)
    exact List.forall_mem_cons.mpr ⟨hoption, ih h⟩
  | case8 given argument name hmay hflag hname value rest hend hsplit ih =>
    have hoption := asksForHelp_of_splitOption? hsplit
      (ne_of_mem_of_not_mem (not_not.mp hname) hvalued)
    exact List.forall_mem_cons.mpr ⟨hoption, ih h⟩
  | case10 given argument name hmay hflag hname value rest hvalue hend hsplit ih =>
    have hoption := asksForHelp_of_splitOption? hsplit
      (ne_of_mem_of_not_mem (not_not.mp hname) hvalued)
    have hvalue := asksForHelp_eq_false (Bool.of_not_eq_true hvalue)
    exact List.forall_mem_cons.mpr ⟨hoption, List.forall_mem_cons.mpr ⟨hvalue, ih h⟩⟩
  | _ => cases h

/-- Arguments that can be read as the options of a command ask for that command. -/
theorem ofCommand?_of_readOptions? {topic : Topic} {names : OptionNames}
    {command? : List String → Option Command} {found : Given} (hvalued : "help" ∉ names.valued)
    (hflags : "help" ∉ names.flags) (h : readOptions? names [] arguments = some found) :
    ofCommand? topic names command? arguments = (command? arguments).map .run := by
  have hhelp : ¬ arguments.any asksForHelp = true := by
    rw [List.any_eq_true]
    rintro ⟨argument, hargument, hasks⟩
    rw [asksForHelp_of_readOptions? hvalued hflags h argument hargument] at hasks
    cases hasks
  rw [ofCommand?, if_neg hhelp]

/-! ## Commands -/

/-- A command that is asked for is read from the arguments behind its name. -/
theorem ofCommand?_run {topic : Topic} {names : OptionNames}
    {command? : List String → Option Command}
    (h : ofCommand? topic names command? arguments = some (.run command)) :
    command? arguments = some command := by
  unfold ofCommand? at h
  split at h
  · unfold help? at h
    split at h
    · split at h <;> cases h
    · cases h
  · obtain ⟨found, hfound, heq⟩ := Option.map_eq_some_iff.mp h
    cases heq
    exact hfound

/-- What arguments can ask to run; the slots of an `advance` are read from the options among
them. -/
theorem ofArguments?_cases (h : ofArguments? arguments = some (.run command)) :
    (∃ flows, command = .validate flows) ∨
    (∃ state flowId flows kind domainPath,
      command = .start state flowId flows kind domainPath) ∨
    ∃ given flows domainPath state slots commit config,
      readOptions? advanceOptions [] arguments.tail = some given ∧ slots? given = some slots ∧
      command = .advance flows domainPath state slots commit config := by
  unfold ofArguments? at h
  split at h
  case h_1 =>
    obtain ⟨given, -, hfound⟩ := Option.bind_eq_some_iff.mp (ofCommand?_run h)
    obtain ⟨flows, -, hfound⟩ := Option.bind_eq_some_iff.mp hfound
    exact Or.inl ⟨flows, (Option.some.inj hfound).symm⟩
  case h_2 =>
    obtain ⟨given, -, hfound⟩ := Option.bind_eq_some_iff.mp (ofCommand?_run h)
    obtain ⟨kind, -, hfound⟩ := Option.bind_eq_some_iff.mp hfound
    obtain ⟨state, -, hfound⟩ := Option.bind_eq_some_iff.mp hfound
    obtain ⟨flowId, -, hfound⟩ := Option.bind_eq_some_iff.mp hfound
    obtain ⟨flows, -, hfound⟩ := Option.bind_eq_some_iff.mp hfound
    obtain ⟨domainPath, -, hfound⟩ := Option.bind_eq_some_iff.mp hfound
    exact Or.inr (Or.inl ⟨state, flowId, flows, kind, domainPath, (Option.some.inj hfound).symm⟩)
  case h_3 =>
    obtain ⟨given, hgiven, hfound⟩ := Option.bind_eq_some_iff.mp (ofCommand?_run h)
    obtain ⟨flows, -, hfound⟩ := Option.bind_eq_some_iff.mp hfound
    obtain ⟨domainPath, -, hfound⟩ := Option.bind_eq_some_iff.mp hfound
    obtain ⟨state, -, hfound⟩ := Option.bind_eq_some_iff.mp hfound
    obtain ⟨slots, hslots, hfound⟩ := Option.bind_eq_some_iff.mp hfound
    obtain ⟨config, -, hfound⟩ := Option.bind_eq_some_iff.mp hfound
    exact Or.inr (Or.inr ⟨given, flows, domainPath, state, slots, _, config, hgiven, hslots,
      (Option.some.inj hfound).symm⟩)
  case h_4 =>
    obtain ⟨topic, -, heq⟩ := Option.map_eq_some_iff.mp h
    cases heq
  case h_5 =>
    split at h
    · cases h
    · split at h <;> cases h
  case h_6 => cases h

/-- Every slot is read from the option in its place. -/
theorem given_of_slots? {given : Given} {slots : List (String × Json)}
    (h : slots? given = some slots) :
    List.Forall₂ (fun option slot => option.2.bind slot? = some slot)
      (given.filter (·.1 = "slot")) slots := by
  unfold slots? at h
  generalize given.filter (·.1 = "slot") = options at h ⊢
  induction options generalizing slots with
  | nil =>
    cases h
    exact .nil
  | cons option rest ih =>
    rw [List.mapM_cons] at h
    obtain ⟨slot, hslot, h⟩ := Option.bind_eq_some_iff.mp h
    obtain ⟨more, hmore, h⟩ := Option.bind_eq_some_iff.mp h
    cases h
    exact .cons hslot (ih hmore)

end DialogueFlow.Command
