/-
  What a command comes to. Everything that it reads, it reads before it changes a file, so that it
  either fails and leaves all files as they were, or comes down to saving one conversation
  (`FailsOr`, `runStart_failsOr`, `predict_failsOr`). `Saves` lists what `start` and a committing
  `advance` read and the conversation that they make of it. `run_saves`: if such a command succeeds,
  it has saved that conversation, and its state file holds the conversation's text.
-/
import DialogueFlow.Command.Arguments
import DialogueFlow.Proofs.Files.Replacing

namespace DialogueFlow.Command

open Files (Tree)

/-! ## Computations that succeed -/

section

variable {α β : Type} {tree after : Tree}

theorem bind_ok {x : ExceptT Failure (StateM Tree) α} {f : α → ExceptT Failure (StateM Tree) β}
    {b : β} (h : (x >>= f).run tree = (.ok b, after)) :
    ∃ a between, x.run tree = (.ok a, between) ∧ (f a).run between = (.ok b, after) := by
  have hrun : (ExceptT.bindCont f (x.run tree).1).run (x.run tree).2 = (.ok b, after) := h
  cases hx : x.run tree with
  | mk result between =>
    rw [hx] at hrun
    cases result with
    | error cause => cases hrun
    | ok a => exact ⟨a, between, rfl, hrun⟩

theorem pure_ok {a b : α}
    (h : (pure a : ExceptT Failure (StateM Tree) α).run tree = (.ok b, after)) :
    a = b ∧ after = tree := by
  cases h
  exact ⟨rfl, rfl⟩

end

variable {services : Services} {tree after : Tree} {path : String} {conversation : Conversation}

theorem ensure_ok {changed : StateM Tree Bool} {failure : Failure}
    (h : (ensure changed failure).run tree = (.ok (), after)) : changed tree = (true, after) := by
  obtain ⟨done, between, hchanged, hdone⟩ := bind_ok h
  have hlift : (Except.ok (changed tree).1, (changed tree).2) =
      ((.ok done, between) : Except Failure Bool × Tree) := hchanged
  obtain ⟨hresult, rfl⟩ := Prod.mk.inj hlift
  cases done with
  | true =>
    obtain ⟨-, rfl⟩ := pure_ok hdone
    exact Prod.ext (Except.ok.inj hresult) rfl
  | false => cases hdone

/-- A conversation that was saved is in its file. -/
theorem save_ok (h : (save Tree.access path conversation).run tree = (.ok (), after)) :
    after.read path = .text (SavedConversation.ofConversation conversation).text := by
  have hmoved : ∀ {between : Tree} {source text : String} {first second : Failure},
      (do ensure (Tree.access.write source text) first
          ensure (Tree.access.replace source path) second :
        ExceptT Failure (StateM Tree) Unit).run between = (.ok (), after) →
      after.read path = .text text := by
    intro between source text first second h
    obtain ⟨⟨⟩, written, hwrite, hreplace⟩ := bind_ok h
    exact Tree.read_replace (congrArg Prod.swap (ensure_ok hwrite) : between.write source text = _)
      (congrArg Prod.swap (ensure_ok hreplace) : written.replace source path = _)
  unfold save at h
  dsimp only at h
  split at h
  · obtain ⟨-, between, -, hrest⟩ := bind_ok h
    exact hmoved hrest
  · exact hmoved h

/-! ## What is saved -/

/-- The command writes its state file when it succeeds. -/
def writes : Command → Bool
  | .validate _ => false
  | .start .. => true
  | .advance _ _ _ _ commit _ => commit

/-- What a writing command that succeeds on these files saves, with these services: the path of its
state file, and the conversation. -/
inductive Saves (services : Services) (tree : Tree) : Command → String → Conversation → Prop
  | started {state flowId domainPath : String} {flows : Option String} {kind : FrameKind}
      {domain : Domain} {saved : SavedConversation} {event : Event}
      (hdomain : domainOf domainPath (tree.read domainPath) = .ok domain)
      (hsaved : savedOf state defaultSender (tree.read state) = .ok saved)
      (hevent : startEvent (saved.toConversation domain) flowId kind = .ok event) :
      Saves services tree (.start state flowId flows kind domainPath) state
        ((saved.toConversation domain).record event)
  | advanced {flows domainPath state config : String} {slots : List (String × Json)}
      {settings : Settings} {catalog : Catalog} {domain : Domain} {saved : SavedConversation}
      {conversation : Conversation} {prediction : Prediction}
      (hsettings : settingsOf config (tree.read config) = .ok settings)
      (hcatalog : catalogOf flows (tree.read flows) = .ok catalog)
      (hdomain : domainOf domainPath (tree.read domainPath) = .ok domain)
      (hsaved : savedOf state defaultSender (tree.read state) = .ok saved)
      (hslots : conversation = (saved.toConversation domain).recordAll
        (slots.map fun slot => .slotSet slot.1 slot.2))
      (hturn : (Turn.advance conversation domain (settings.catalog catalog) services
        settings.ceiling []).1 = .ok prediction) :
      Saves services tree (.advance flows domainPath state slots true config) state
        (conversation.recordAll prediction.committed)

/-- What `advance` predicts on these files: the turn of the conversation that it finds, with the
given slots recorded. -/
inductive Predicts (services : Services) (tree : Tree) (flows domainPath state : String)
    (slots : List (String × Json)) (config : String) :
    SavedConversation → Domain → Prediction → Prop
  | turned {settings : Settings} {catalog : Catalog} {domain : Domain} {saved : SavedConversation}
      {prediction : Prediction}
      (hsettings : settingsOf config (tree.read config) = .ok settings)
      (hcatalog : catalogOf flows (tree.read flows) = .ok catalog)
      (hdomain : domainOf domainPath (tree.read domainPath) = .ok domain)
      (hsaved : savedOf state defaultSender (tree.read state) = .ok saved)
      (hturn : (Turn.advance ((saved.toConversation domain).recordAll
        (slots.map fun slot => .slotSet slot.1 slot.2)) domain (settings.catalog catalog)
        services settings.ceiling []).1 = .ok prediction) :
      Predicts services tree flows domainPath state slots config saved domain prediction

theorem Predicts.saves {flows domainPath state config : String} {slots : List (String × Json)}
    {saved : SavedConversation} {domain : Domain} {prediction : Prediction}
    (h : Predicts services tree flows domainPath state slots config saved domain prediction) :
    Saves services tree (.advance flows domainPath state slots true config) state
      (((saved.toConversation domain).recordAll
        (slots.map fun slot => .slotSet slot.1 slot.2)).recordAll prediction.committed) := by
  obtain ⟨hsettings, hcatalog, hdomain, hsaved, hturn⟩ := h
  exact .advanced hsettings hcatalog hdomain hsaved rfl hturn

/-! ## Reading before anything is changed -/

/-- The computation fails and changes no file, or what it comes to has the property. -/
def FailsOr {α : Type} (tree : Tree) (P : Except Failure α × Tree → Prop)
    (x : ExceptT Failure (StateM Tree) α) : Prop :=
  (∃ failure, x.run tree = (.error failure, tree)) ∨ P (x.run tree)

section

variable {α β : Type} {P : Except Failure β × Tree → Prop}

/-- What goes on after a computation that changes no file may use what that gave. -/
theorem failsOr_bind {x : ExceptT Failure (StateM Tree) α} {result : Except Failure α}
    {f : α → ExceptT Failure (StateM Tree) β} (hx : x.run tree = (result, tree))
    (hrest : ∀ a, result = .ok a → FailsOr tree P (f a)) : FailsOr tree P (x >>= f) := by
  have hrun : (x >>= f).run tree = (ExceptT.bindCont f (x.run tree).1).run (x.run tree).2 := rfl
  rw [hx] at hrun
  cases result with
  | error failure => exact Or.inl ⟨failure, hrun⟩
  | ok a =>
    have hgoesOn : (x >>= f).run tree = (f a).run tree := hrun
    unfold FailsOr
    rw [hgoesOn]
    exact hrest a rfl

theorem failsOr_load {make : String → Files.Reading → Except Failure α}
    {f : α → ExceptT Failure (StateM Tree) β}
    (hrest : ∀ a, make path (tree.read path) = .ok a → FailsOr tree P (f a)) :
    FailsOr tree P (load Tree.access path make >>= f) :=
  failsOr_bind rfl hrest

theorem failsOr_loadConversation {domain : Domain}
    {f : Conversation → ExceptT Failure (StateM Tree) β}
    (hrest : ∀ saved, savedOf path defaultSender (tree.read path) = .ok saved →
      FailsOr tree P (f (saved.toConversation domain))) :
    FailsOr tree P (loadConversation Tree.access path domain >>= f) := by
  unfold loadConversation
  rw [bind_assoc]
  refine failsOr_load fun saved hsaved => ?_
  rw [pure_bind]
  exact hrest saved hsaved

theorem failsOr_checkFlow {flowId : String} {f : Unit → ExceptT Failure (StateM Tree) β}
    (hrest : FailsOr tree P (f ())) :
    FailsOr tree P (checkFlow Tree.access flowId path >>= f) := by
  unfold checkFlow
  rw [bind_assoc]
  refine failsOr_load fun catalog _ => ?_
  split
  · rw [pure_bind]
    exact hrest
  · exact Or.inl ⟨.unknownFlow flowId path, rfl⟩

end

/-- `start` fails before it changes a file, or saves a conversation. -/
theorem runStart_failsOr (services : Services) (tree : Tree) (state flowId : String)
    (flows : Option String) (kind : FrameKind) (domainPath : String) :
    FailsOr tree (fun ran => ∃ conversation,
        Saves services tree (.start state flowId flows kind domainPath) state conversation ∧
          ran = (save Tree.access state conversation).run tree)
      (runStart Tree.access state flowId flows kind domainPath) := by
  unfold runStart
  cases flows with
  | none =>
    refine failsOr_load fun domain hdomain => ?_
    refine failsOr_loadConversation fun saved hsaved => ?_
    refine failsOr_bind rfl fun event hevent => ?_
    exact Or.inr ⟨_, .started hdomain hsaved hevent, rfl⟩
  | some path =>
    refine failsOr_checkFlow ?_
    refine failsOr_load fun domain hdomain => ?_
    refine failsOr_loadConversation fun saved hsaved => ?_
    refine failsOr_bind rfl fun event hevent => ?_
    exact Or.inr ⟨_, .started hdomain hsaved hevent, rfl⟩

/-- A turn changes no file. -/
theorem predict_failsOr (services : Services) (tree : Tree) (flows domainPath state : String)
    (slots : List (String × Json)) (config : String) :
    FailsOr tree (fun ran => ∃ saved domain prediction,
        Predicts services tree flows domainPath state slots config saved domain prediction ∧
          ran = (.ok ((saved.toConversation domain).recordAll
            (slots.map fun slot => .slotSet slot.1 slot.2), prediction), tree))
      (predict services Tree.access flows domainPath state slots config) := by
  unfold predict
  refine failsOr_load fun settings hsettings => ?_
  refine failsOr_load fun catalog hcatalog => ?_
  refine failsOr_load fun domain hdomain => ?_
  refine failsOr_loadConversation fun saved hsaved => ?_
  dsimp only
  split
  rename_i result _ hadvance
  cases result with
  | error cause => exact Or.inl ⟨.flow cause, rfl⟩
  | ok prediction =>
    have hturn := congrArg Prod.fst hadvance
    exact Or.inr ⟨saved, domain, prediction, ⟨hsettings, hcatalog, hdomain, hsaved, hturn⟩, rfl⟩

/-! ## Whole commands -/

theorem events_toConversation (saved : SavedConversation) (domain : Domain) :
    (saved.toConversation domain).events = saved.events :=
  Conversation.events_recordAll _ _

theorem Report.ok_of_success {output : String} {result : Except Failure Unit}
    (h : (ofExcept output result).status = .success) : result = .ok () := by
  cases result with
  | error failure => exact absurd h failure.status_ne_success
  | ok done => rfl

/-- The report on saving a conversation, and the files after it. -/
def saving (output path : String) (conversation : Conversation) (tree : Tree) : Report × Tree :=
  let saved := (save Tree.access path conversation).run tree
  (.ofExcept output saved.1, saved.2)

theorem saving_success {output : String}
    (h : (saving output path conversation tree).1.status = .success) :
    (save Tree.access path conversation).run tree =
      (.ok (), (saving output path conversation tree).2) :=
  Prod.ext (Report.ok_of_success h) rfl

theorem run_start_cases (services : Services) (tree : Tree) (state flowId : String)
    (flows : Option String) (kind : FrameKind) (domainPath : String) :
    (∃ failure, run services Tree.access (.start state flowId flows kind domainPath) tree =
      (.failed "" failure, tree)) ∨
    ∃ conversation,
      Saves services tree (.start state flowId flows kind domainPath) state conversation ∧
      run services Tree.access (.start state flowId flows kind domainPath) tree =
        saving "" state conversation tree := by
  let started := (runStart Tree.access state flowId flows kind domainPath).run tree
  have hrun : run services Tree.access (.start state flowId flows kind domainPath) tree =
    (.ofExcept "" started.1, started.2) := rfl
  rw [hrun]
  rcases runStart_failsOr services tree state flowId flows kind domainPath with
    ⟨failure, hfailed⟩ | ⟨conversation, hsaves, hsave⟩
  · exact Or.inl ⟨failure, by rw [show started = _ from hfailed]; rfl⟩
  · exact Or.inr ⟨conversation, hsaves, by rw [show started = _ from hsave]; rfl⟩

theorem run_advance_cases (services : Services) (tree : Tree) (flows domainPath state : String)
    (slots : List (String × Json)) (commit : Bool) (config : String) :
    (∃ failure,
      run services Tree.access (.advance flows domainPath state slots commit config) tree =
        (.failed "" failure, tree)) ∨
    ∃ saved domain prediction,
      Predicts services tree flows domainPath state slots config saved domain prediction ∧
      run services Tree.access (.advance flows domainPath state slots commit config) tree =
        if commit then
          saving (predictionText prediction) state (((saved.toConversation domain).recordAll
            (slots.map fun slot => .slotSet slot.1 slot.2)).recordAll prediction.committed) tree
        else (.succeeded (predictionText prediction), tree) := by
  rcases predict_failsOr services tree flows domainPath state slots config with
    ⟨failure, hfailed⟩ | ⟨saved, domain, prediction, hpredicts, hpredicted⟩
  · refine Or.inl ⟨failure, ?_⟩
    unfold run
    simp only [bind, StateT.bind, hfailed]
    rfl
  · refine Or.inr ⟨saved, domain, prediction, hpredicts, ?_⟩
    unfold run
    simp only [bind, StateT.bind, hpredicted]
    cases commit <;> rfl

/-- A writing command that succeeds has saved a conversation. -/
theorem run_saves {command : Command} (hwrites : command.writes = true)
    (hsuccess : (command.run services Tree.access tree).1.status = .success) :
    ∃ path conversation, Saves services tree command path conversation ∧
      (save Tree.access path conversation).run tree =
        (.ok (), (command.run services Tree.access tree).2) := by
  cases command with
  | validate flows => cases hwrites
  | start state flowId flows kind domainPath =>
    rcases run_start_cases services tree state flowId flows kind domainPath with
      ⟨failure, hrun⟩ | ⟨conversation, hsaves, hrun⟩
    · rw [hrun] at hsuccess
      exact absurd hsuccess failure.status_ne_success
    · rw [hrun] at hsuccess ⊢
      exact ⟨state, conversation, hsaves, saving_success hsuccess⟩
  | advance flows domainPath state slots commit config =>
    obtain rfl : commit = true := hwrites
    rcases run_advance_cases services tree flows domainPath state slots true config with
      ⟨failure, hrun⟩ | ⟨saved, domain, prediction, hpredicts, hrun⟩
    · rw [hrun] at hsuccess
      exact absurd hsuccess failure.status_ne_success
    · rw [hrun, if_pos rfl] at hsuccess ⊢
      exact ⟨state, _, hpredicts.saves, saving_success hsuccess⟩

/-! ## From the arguments -/

section

variable {program : Program} {arguments : List String}

theorem Program.run_of_none (h : ofArguments? arguments = none) (tree : Tree) :
    program.run Tree.access arguments tree = (misused, tree) := by
  rw [Program.run, h]
  rfl

theorem Program.run_of_version (h : ofArguments? arguments = some .version) (tree : Tree) :
    program.run Tree.access arguments tree = (.succeeded versionText, tree) := by
  rw [Program.run, h]
  rfl

theorem Program.run_of_help {topic : Topic} (h : ofArguments? arguments = some (.help topic))
    (tree : Tree) :
    program.run Tree.access arguments tree = (.succeeded (program.helpText topic), tree) := by
  rw [Program.run, h]
  rfl

theorem Program.run_of_run {command : Command}
    (h : ofArguments? arguments = some (.run command)) (tree : Tree) :
    program.run Tree.access arguments tree = command.run program.services Tree.access tree := by
  rw [Program.run, h]

end

end DialogueFlow.Command
