/-
  What the commands do to the state file. Main statement: `state_file_appended`. A command that fails
  and an `advance` that does not commit leave all files as they were, as long as the files that a
  command has to write can be written. `start` appends the event that puts the flow on the stack to
  the conversation in the file, a committing `advance` the given slots, the events of the prediction
  that it prints, and the predicted action.
-/
import DialogueFlow.Proofs.Command.Readable

namespace DialogueFlow.Command

open Files (Tree)

/-- Whatever conversation the command may have to save with these services can be saved. -/
def Writable (services : Services) (tree : Tree) (command : Command) : Prop :=
  ∀ path conversation, Saves services tree command path conversation →
    ((save Tree.access path conversation).run tree).1 = .ok ()

/-- The conversation at a path: what the text there is read as, or one of the default sender before
the first event if there is no file. -/
def Finds (tree : Tree) (path : String) (saved : SavedConversation) : Prop :=
  (tree.read path = .missing ∧ saved = .fresh defaultSender) ∨
    ∃ text, tree.read path = .text text ∧ SavedConversation.ofText? text = some saved

/-- Each of the slots is read from one of the slot options among the arguments, in order. -/
def Gives (arguments : List String) (slots : List (String × Json)) : Prop :=
  ∃ given, readOptions? advanceOptions [] arguments.tail = some given ∧
    List.Forall₂ (fun option slot => option.2.bind slot? = some slot)
      (given.filter (·.1 = "slot")) slots

variable {services : Services} {tree : Tree} {saved : SavedConversation}

theorem gives_of_ofArguments? {arguments : List String} {flows domainPath state config : String}
    {slots : List (String × Json)} {commit : Bool}
    (h : ofArguments? arguments =
      some (.run (.advance flows domainPath state slots commit config))) :
    Gives arguments slots := by
  rcases ofArguments?_cases h with
    ⟨_, hvalidate⟩ | ⟨_, _, _, _, _, hstart⟩ | ⟨given, _, _, _, _, _, _, hgiven, hslots, hadvance⟩
  · cases hvalidate
  · cases hstart
  · cases hadvance
    exact ⟨given, hgiven, given_of_slots? hslots⟩

theorem finds_of_savedOf {path : String}
    (h : savedOf path defaultSender (tree.read path) = .ok saved) : Finds tree path saved := by
  unfold savedOf optionalInput at h
  split at h
  · rename_i hread
    exact Or.inl ⟨hread, (Except.ok.inj h).symm⟩
  · cases h
  · rename_i text hread
    split at h
    · rename_i hsaved
      exact Or.inr ⟨text, hread, hsaved.trans (congrArg some (Except.ok.inj h))⟩
    · cases h

theorem startEvent_ok {conversation : Conversation} {flowId : String} {kind : FrameKind}
    {event : Event} (h : startEvent conversation flowId kind = .ok event) :
    ∃ stack, Stack.ofConversation conversation = .ok stack ∧
      event = .slotSet Conversation.stackSlot (stack.push (.atStart flowId kind)).toJson := by
  unfold startEvent at h
  split at h
  · cases h
  · rename_i stack hstack
    exact ⟨stack, hstack, (Except.ok.inj h).symm⟩

/-- Recording events in a loaded conversation appends them to what was saved. -/
theorem ofConversation_recordAll (saved : SavedConversation) (domain : Domain)
    (events : List Event) :
    SavedConversation.ofConversation ((saved.toConversation domain).recordAll events) =
      ⟨saved.sender, saved.events ++ events⟩ := by
  unfold SavedConversation.ofConversation
  rw [Conversation.events_recordAll, events_toConversation, Conversation.sender_recordAll,
    SavedConversation.toConversation, Conversation.replay, Conversation.sender_recordAll]
  rfl

theorem run_validate_unchanged (services : Services) (tree : Tree) (flows : String) :
    (run services Tree.access (.validate flows) tree).2 = tree := by
  have hload : (load Tree.access flows catalogOf).run tree =
      (catalogOf flows (tree.read flows), tree) := rfl
  unfold run
  simp only [bind, StateT.bind, hload]
  cases catalogOf flows (tree.read flows) <;> rfl

theorem saving_succeeds {output path : String} {conversation : Conversation}
    (h : ((save Tree.access path conversation).run tree).1 = .ok ()) :
    (saving output path conversation tree).1.status = .success := by
  unfold saving
  dsimp only
  rw [h]
  rfl

theorem saving_output (output path : String) (conversation : Conversation) (tree : Tree) :
    (saving output path conversation tree).1.output = output := by
  unfold saving
  dsimp only
  cases ((save Tree.access path conversation).run tree).1 <;> rfl

/-- A command that fails leaves all files as they were. -/
theorem run_unchanged_of_failed {command : Command} (hwritable : command.Writable services tree)
    (hfailed : (command.run services Tree.access tree).1.status ≠ .success) :
    (command.run services Tree.access tree).2 = tree := by
  cases command with
  | validate flows => exact run_validate_unchanged services tree flows
  | start state flowId flows kind domainPath =>
    rcases run_start_cases services tree state flowId flows kind domainPath with
      ⟨failure, hrun⟩ | ⟨conversation, hsaves, hrun⟩
    · rw [hrun]
    · rw [hrun] at hfailed
      exact absurd (saving_succeeds (hwritable state conversation hsaves)) hfailed
  | advance flows domainPath state slots commit config =>
    rcases run_advance_cases services tree flows domainPath state slots commit config with
      ⟨failure, hrun⟩ | ⟨saved, domain, prediction, hpredicts, hrun⟩
    · rw [hrun]
    · cases commit with
      | false =>
        rw [hrun]
        rfl
      | true =>
        rw [hrun, if_pos rfl] at hfailed
        exact absurd (saving_succeeds (hwritable state _ hpredicts.saves)) hfailed

/-- Without a commit a turn is only printed. -/
theorem run_uncommitted_unchanged (services : Services) (tree : Tree)
    (flows domainPath state : String) (slots : List (String × Json)) (config : String) :
    (run services Tree.access (.advance flows domainPath state slots false config) tree).2 =
      tree := by
  rcases run_advance_cases services tree flows domainPath state slots false config with
    ⟨failure, hrun⟩ | ⟨saved, domain, prediction, -, hrun⟩
  · rw [hrun]
  · rw [hrun]
    rfl

/-- What a `start` that succeeds appends. -/
theorem run_start_appends {state flowId : String} {flows : Option String} {kind : FrameKind}
    {domainPath : String}
    (hsuccess :
      (run services Tree.access (.start state flowId flows kind domainPath) tree).1.status =
        .success) :
    ∃ saved domain stack, Finds tree state saved ∧
      domainOf domainPath (tree.read domainPath) = .ok domain ∧
      Stack.ofConversation (saved.toConversation domain) = .ok stack ∧
      (run services Tree.access (.start state flowId flows kind domainPath) tree).2.read state =
        .text (SavedConversation.text ⟨saved.sender, saved.events ++
          [.slotSet Conversation.stackSlot (stack.push (.atStart flowId kind)).toJson]⟩) := by
  obtain ⟨path, conversation, hsaves, hsave⟩ := run_saves rfl hsuccess
  have hread := save_ok hsave
  cases hsaves with
  | @started _ _ _ _ _ domain saved event hdomain hsaved hevent =>
    obtain ⟨stack, hstack, rfl⟩ := startEvent_ok hevent
    refine ⟨saved, domain, stack, finds_of_savedOf hsaved, hdomain, hstack, ?_⟩
    rw [hread]
    exact congrArg (Files.Reading.text ·.text) (ofConversation_recordAll saved domain [_])

/-- What a committing `advance` that succeeds appends. -/
theorem run_advance_appends {flows domainPath state config : String}
    {slots : List (String × Json)}
    (hsuccess :
      (run services Tree.access (.advance flows domainPath state slots true config) tree).1.status =
        .success) :
    let ran := run services Tree.access (.advance flows domainPath state slots true config) tree
    ∃ saved domain prediction, Finds tree state saved ∧
      Predicts services tree flows domainPath state slots config saved domain prediction ∧
      ran.1.output = predictionText prediction ∧
      ran.2.read state = .text (SavedConversation.text ⟨saved.sender, saved.events ++
        (slots.map (fun slot => .slotSet slot.1 slot.2) ++ prediction.events ++
          (prediction.action.map .actionExecuted).toList)⟩) := by
  intro ran
  rcases run_advance_cases services tree flows domainPath state slots true config with
    ⟨failure, hrun⟩ | ⟨saved, domain, prediction, hpredicts, hrun⟩
  · rw [hrun] at hsuccess
    exact absurd hsuccess failure.status_ne_success
  · rw [if_pos rfl] at hrun
    have hsave := save_ok (saving_success (hrun ▸ hsuccess))
    have hfinds : Finds tree state saved := by
      cases hpredicts with
      | turned _ _ _ hsaved _ => exact finds_of_savedOf hsaved
    refine ⟨saved, domain, prediction, hfinds, hpredicts, ?_, ?_⟩
    · exact (congrArg (·.1.output) hrun).trans (saving_output _ _ _ _)
    · show (run services Tree.access _ tree).2.read state = _
      rw [hrun, hsave, ← Conversation.recordAll_append, ofConversation_recordAll,
        Prediction.committed, List.append_assoc]

/-- With any services, the state file is changed only by success, and only by appending: a command
line that fails and an `advance` without a commit leave all files as they were, `start` appends the
stack with the new frame on top, and a committing `advance` the given slots, the events of the
prediction that it prints, and the predicted action. -/
theorem state_file_appended (program : Program) (arguments : List String) (tree : Tree) :
    let ran := program.run Tree.access arguments tree
    (ran.1.status ≠ .success →
      (∀ command, ofArguments? arguments = some (.run command) →
        command.Writable program.services tree) → ran.2 = tree) ∧
    (∀ flows domainPath state slots config,
      ofArguments? arguments =
        some (.run (.advance flows domainPath state slots false config)) → ran.2 = tree) ∧
    (∀ state flowId flows kind domainPath,
      ofArguments? arguments = some (.run (.start state flowId flows kind domainPath)) →
      ran.1.status = .success →
        ∃ saved domain stack, Finds tree state saved ∧
          domainOf domainPath (tree.read domainPath) = .ok domain ∧
          Stack.ofConversation (saved.toConversation domain) = .ok stack ∧
          ran.2.read state = .text (SavedConversation.text ⟨saved.sender, saved.events ++
            [.slotSet Conversation.stackSlot (stack.push (.atStart flowId kind)).toJson]⟩)) ∧
    ∀ flows domainPath state slots config,
      ofArguments? arguments =
        some (.run (.advance flows domainPath state slots true config)) →
      ran.1.status = .success → Gives arguments slots ∧
        ∃ saved domain prediction, Finds tree state saved ∧
          Predicts program.services tree flows domainPath state slots config saved domain
            prediction ∧
          ran.1.output = predictionText prediction ∧
          ran.2.read state = .text (SavedConversation.text ⟨saved.sender, saved.events ++
            (slots.map (fun slot => .slotSet slot.1 slot.2) ++ prediction.events ++
              (prediction.action.map .actionExecuted).toList)⟩) := by
  intro ran
  have hran : ∀ {command}, ofArguments? arguments = some (.run command) →
      ran = command.run program.services Tree.access tree :=
    fun hcommand => program.run_of_run hcommand tree
  refine ⟨?_, ?_, ?_, ?_⟩
  · intro hfailed hwritable
    cases hasked : ofArguments? arguments with
    | none => exact congrArg Prod.snd (program.run_of_none hasked tree)
    | some request =>
      cases request with
      | version => exact congrArg Prod.snd (program.run_of_version hasked tree)
      | help topic => exact congrArg Prod.snd (program.run_of_help hasked tree)
      | run command =>
        rw [hran hasked] at hfailed ⊢
        exact run_unchanged_of_failed (hwritable command hasked) hfailed
  · intro flows domainPath state slots config hcommand
    rw [hran hcommand]
    exact run_uncommitted_unchanged program.services tree flows domainPath state slots config
  · intro state flowId flows kind domainPath hcommand hsuccess
    rw [hran hcommand] at hsuccess ⊢
    exact run_start_appends hsuccess
  · intro flows domainPath state slots config hcommand hsuccess
    rw [hran hcommand] at hsuccess ⊢
    exact ⟨gives_of_ofArguments? hcommand, run_advance_appends hsuccess⟩

/-- The arguments that start a flow without a look at a catalog. -/
def starting : List String := ["start", "--state", "state.json", "--flow-id", "greet"]

/-- The arguments that only print a turn. -/
def looking : List String := ["advance", "--flows", "flows.json", "--state", "state.json"]

theorem finds_missing {path : String} (hread : tree.read path = .missing)
    (h : Finds tree path saved) : saved = .fresh defaultSender := by
  rcases h with ⟨-, hsaved⟩ | ⟨text, htext, -⟩
  · exact hsaved
  · cases hread.symm.trans htext

/-- Without a catalog nothing is appended; a start appends a stack, and a turn without flows the
given slot. -/
theorem greet_and_size_appended :
    let failed := executor.run Tree.access (advanceWith "size=large") []
    let looked := executor.run Tree.access looking withoutFlows
    let started := executor.run Tree.access starting []
    let advanced := executor.run Tree.access (advanceWith "size=large") withoutFlows
    (failed.1.status ≠ .success ∧ failed.2 = []) ∧
    (looked.1.status = .success ∧ looked.2 = withoutFlows) ∧
    (started.1.status = .success ∧
      started.2.read "state.json" = .text (SavedConversation.text ⟨"default",
        [.slotSet "dialogue_stack" (Stack.toJson [.atStart "greet" .regular])]⟩)) ∧
    advanced.1.status = .success ∧
      ∃ prediction, advanced.1.output = predictionText prediction ∧
        advanced.2.read "state.json" = .text (SavedConversation.text ⟨"default",
          [.slotSet "size" (.str "large")] ++ prediction.events ++
            (prediction.action.map .actionExecuted).toList⟩) := by
  dsimp only
  have hadvance : ofArguments? (advanceWith "size=large") = some (.run (.advance "flows.json"
      "domain.toml" "state.json" [("size", .str "large")] true "executor.toml")) := by
    rw [ofArguments?_advanceWith (by decide +kernel),
      show slot? "size=large" = some ("size", .str "large") by decide +kernel, Option.map_some]
  have hlook : ofArguments? looking = some (.run (.advance "flows.json" "domain.toml"
      "state.json" [] false "executor.toml")) := by decide +kernel
  have hstart : ofArguments? starting = some (.run (.start "state.json" "greet" none .regular
      "domain.toml")) := by decide +kernel
  refine ⟨?_, ?_, ?_, ?_⟩
  · have hfailed :
        (executor.run Tree.access (advanceWith "size=large") []).1.status ≠ .success := by
      decide +kernel
    refine ⟨hfailed, (state_file_appended executor (advanceWith "size=large") []).1 hfailed ?_⟩
    intro command hcommand path conversation hsaves
    obtain rfl := Request.run.inj (Option.some.inj (hadvance.symm.trans hcommand))
    cases hsaves with
    | advanced _ hcatalog => cases hcatalog
  · have hlooked : (executor.run Tree.access looking withoutFlows).1.status = .success := by
      decide +kernel
    exact ⟨hlooked, (state_file_appended executor looking withoutFlows).2.1 _ _ _ _ _ hlook⟩
  · have hstarted : (executor.run Tree.access starting []).1.status = .success := by
      decide +kernel
    obtain ⟨saved, domain, stack, hfinds, hdomain, hstack, hread⟩ :=
      (state_file_appended executor starting []).2.2.1 _ _ _ _ _ hstart hstarted
    obtain rfl := finds_missing (by decide +kernel) hfinds
    have hempty : domainOf "domain.toml" (Tree.read [] "domain.toml") = .ok .empty := by
      decide +kernel
    obtain rfl := Except.ok.inj (hempty.symm.trans hdomain)
    have hnone : Stack.ofConversation
        ((SavedConversation.fresh defaultSender).toConversation .empty) = .ok [] := by
      decide +kernel
    obtain rfl := Except.ok.inj (hnone.symm.trans hstack)
    exact ⟨hstarted, hread⟩
  · have hadvanced :
        (executor.run Tree.access (advanceWith "size=large") withoutFlows).1.status = .success := by
      decide +kernel
    obtain ⟨-, saved, domain, prediction, hfinds, -, houtput, hread⟩ :=
      (state_file_appended executor (advanceWith "size=large") withoutFlows).2.2.2 _ _ _ _ _
        hadvance hadvanced
    obtain rfl := finds_missing (by decide +kernel) hfinds
    exact ⟨hadvanced, prediction, houtput, hread⟩

end DialogueFlow.Command
