/-
  The status that a call of the program ends with. A command succeeds (`Succeeds`), fails over a
  flow or the dialogue stack (`FlowFails`), or is refused for an input or a file (`run_cases`), and
  each of these has its own status. Main statement: `classifies_iff`. The four numbers tell these
  apart, with the breaker apart from the other errors of flows, exactly for the arguments that are
  read; those that are no command share the number of the breaker.
-/
import DialogueFlow.Proofs.Command.Readable

namespace DialogueFlow.Command

open Files (Tree)

/-! ## How commands end -/

/-- The turn of a command with these services: the conversation that it starts from, with the given
slots recorded, and what it comes to. Only `advance` has a turn, and only if all the files that it
reads are valid. -/
inductive Turns (services : Services) (tree : Tree) :
    Command → Conversation → Except FlowError Prediction → Prop
  | turned {flows domainPath state config : String} {slots : List (String × Json)} {commit : Bool}
      {settings : Settings} {catalog : Catalog} {domain : Domain} {saved : SavedConversation}
      {conversation : Conversation} {result : Except FlowError Prediction}
      (hsettings : settingsOf config (tree.read config) = .ok settings)
      (hcatalog : catalogOf flows (tree.read flows) = .ok catalog)
      (hdomain : domainOf domainPath (tree.read domainPath) = .ok domain)
      (hsaved : savedOf state defaultSender (tree.read state) = .ok saved)
      (hslots : conversation = (saved.toConversation domain).recordAll
        (slots.map fun slot => .slotSet slot.1 slot.2))
      (hturn : (Turn.advance conversation domain (settings.catalog catalog) services
        settings.ceiling []).1 = result) :
      Turns services tree (.advance flows domainPath state slots commit config) conversation result

/-- A catalog that the command looks into has the flow that it starts. -/
def KnowsFlow (tree : Tree) : Command → Prop
  | .start _ flowId (some path) _ _ => ∃ catalog, catalogOf path (tree.read path) = .ok catalog ∧
      ((Pattern.addTo catalog).flow? flowId).isSome
  | _ => True

/-- The command fails over this error of a flow: its turn does, or there is a stack that cannot be
read to start a flow on. -/
inductive FlowFails (services : Services) (tree : Tree) : Command → FlowError → Prop
  | turn {command : Command} {conversation : Conversation} {cause : FlowError}
      (hturn : Turns services tree command conversation (.error cause)) :
      FlowFails services tree command cause
  | stack {state flowId domainPath : String} {flows : Option String} {kind : FrameKind}
      {domain : Domain} {saved : SavedConversation} {cause : DecodeError}
      (hknown : KnowsFlow tree (.start state flowId flows kind domainPath))
      (hdomain : domainOf domainPath (tree.read domainPath) = .ok domain)
      (hsaved : savedOf state defaultSender (tree.read state) = .ok saved)
      (hstack : Stack.ofConversation (saved.toConversation domain) = .error cause) :
      FlowFails services tree (.start state flowId flows kind domainPath) (.unreadableStack cause)

/-- The command does what it is for. -/
inductive Succeeds (services : Services) (tree : Tree) : Command → Prop
  | validated {flows : String} {catalog : Catalog}
      (hcatalog : catalogOf flows (tree.read flows) = .ok catalog) :
      Succeeds services tree (.validate flows)
  | printed {flows domainPath state config : String} {slots : List (String × Json)}
      {conversation : Conversation} {prediction : Prediction}
      (hturn : Turns services tree (.advance flows domainPath state slots false config) conversation
        (.ok prediction)) :
      Succeeds services tree (.advance flows domainPath state slots false config)
  | saved {command : Command} {path : String} {conversation : Conversation}
      (hknown : KnowsFlow tree command) (hsaves : Saves services tree command path conversation)
      (hsave : ((save Tree.access path conversation).run tree).1 = .ok ()) :
      Succeeds services tree command

/-! ## The result of a command -/

section

variable {α β : Type} {tree : Tree} {path : String}

theorem run_load_ok {make : String → Files.Reading → Except Failure α} {a : α}
    (h : make path (tree.read path) = .ok a) (f : α → ExceptT Failure (StateM Tree) β) :
    (load Tree.access path make >>= f).run tree = (f a).run tree := by
  show (ExceptT.bindCont f (make path (tree.read path))).run tree = _
  rw [h]
  rfl

theorem run_loadConversation_ok {saved : SavedConversation}
    (h : savedOf path defaultSender (tree.read path) = .ok saved) (domain : Domain)
    (f : Conversation → ExceptT Failure (StateM Tree) β) :
    (loadConversation Tree.access path domain >>= f).run tree =
      (f (saved.toConversation domain)).run tree := by
  unfold loadConversation
  rw [bind_assoc, run_load_ok h, pure_bind]

theorem run_checkFlow_ok {flowId : String} {catalog : Catalog}
    (h : catalogOf path (tree.read path) = .ok catalog)
    (hflow : ((Pattern.addTo catalog).flow? flowId).isSome)
    (f : Unit → ExceptT Failure (StateM Tree) β) :
    (checkFlow Tree.access flowId path >>= f).run tree = (f ()).run tree := by
  obtain ⟨flow, hflow⟩ := Option.isSome_iff_exists.mp hflow
  unfold checkFlow
  rw [bind_assoc, run_load_ok h, hflow]
  rfl

end

variable {services : Services} {tree : Tree} {command : Command}

theorem Turns.run_predict {flows domainPath state config : String} {slots : List (String × Json)}
    {commit : Bool} {conversation : Conversation} {result : Except FlowError Prediction}
    (h : Turns services tree (.advance flows domainPath state slots commit config) conversation
      result) :
    (predict services Tree.access flows domainPath state slots config).run tree =
      ((result.mapError Failure.flow).map fun prediction => (conversation, prediction), tree) := by
  cases h with
  | turned hsettings hcatalog hdomain hsaved hslots hturn =>
    subst hslots hturn
    unfold predict
    rw [run_load_ok hsettings, run_load_ok hcatalog, run_load_ok hdomain,
      run_loadConversation_ok hsaved]
    dsimp only
    generalize Turn.advance _ _ _ _ _ _ = ran
    obtain ⟨result, asked⟩ := ran
    cases result <;> rfl

theorem run_runStart {state flowId domainPath : String} {flows : Option String} {kind : FrameKind}
    {domain : Domain} {saved : SavedConversation}
    (hknown : KnowsFlow tree (.start state flowId flows kind domainPath))
    (hdomain : domainOf domainPath (tree.read domainPath) = .ok domain)
    (hsaved : savedOf state defaultSender (tree.read state) = .ok saved) :
    (runStart Tree.access state flowId flows kind domainPath).run tree =
      match startEvent (saved.toConversation domain) flowId kind with
      | .error failure => (.error failure, tree)
      | .ok event =>
        (save Tree.access state ((saved.toConversation domain).record event)).run tree := by
  unfold runStart
  cases flows with
  | none =>
    rw [run_load_ok hdomain, run_loadConversation_ok hsaved]
    cases startEvent (saved.toConversation domain) flowId kind <;> rfl
  | some path =>
    obtain ⟨catalog, hcatalog, hflow⟩ := hknown
    rw [run_checkFlow_ok hcatalog hflow, run_load_ok hdomain, run_loadConversation_ok hsaved]
    cases startEvent (saved.toConversation domain) flowId kind <;> rfl

/-! ## Refused inputs -/

/-- The computation stops at an input that is not valid. -/
def Refuses {α : Type} (tree : Tree) (x : ExceptT Failure (StateM Tree) α) : Prop :=
  ∃ failure, failure.status = .invalid ∧ x.run tree = (.error failure, tree)

section

variable {α β : Type} {path : String}

/-- What goes wrong with the files of a reader is an invalid input. -/
def InvalidInput (make : String → Files.Reading → Except Failure α) : Prop :=
  ∀ path reading failure, make path reading = .error failure → failure.status = .invalid

theorem refuses_or_load {make : String → Files.Reading → Except Failure α}
    (hmake : InvalidInput make) (f : α → ExceptT Failure (StateM Tree) β) :
    Refuses tree (load Tree.access path make >>= f) ∨ ∃ a, make path (tree.read path) = .ok a := by
  cases h : make path (tree.read path) with
  | ok a => exact Or.inr ⟨a, rfl⟩
  | error failure =>
    refine Or.inl ⟨failure, hmake _ _ _ h, ?_⟩
    show (ExceptT.bindCont f (make path (tree.read path))).run tree = _
    rw [h]
    rfl

theorem invalidInput_optional {default : α} {ofText? : String → Option α} :
    InvalidInput fun path => optionalInput path default ofText? := by
  intro path reading failure h
  dsimp only [optionalInput] at h
  split at h
  · cases h
  · cases h
    rfl
  · split at h
    · cases h
    · cases h
      rfl

end

theorem invalidInput_settingsOf : InvalidInput settingsOf := by
  intro path reading failure h
  unfold settingsOf at h
  split at h
  · rename_i cause hread
    cases h
    exact invalidInput_optional _ _ _ hread
  · split at h
    · cases h
      rfl
    · cases h

theorem invalidInput_catalogOf : InvalidInput catalogOf := by
  intro path reading failure h
  unfold catalogOf at h
  split at h
  · rename_i text
    cases hload : Catalog.load text with
    | ok catalog =>
      rw [hload] at h
      cases h
    | error cause =>
      rw [hload] at h
      cases h
      rfl
  · cases h
    rfl

theorem invalidInput_domainOf : InvalidInput domainOf := invalidInput_optional

theorem invalidInput_savedOf (sender : String) : InvalidInput (savedOf · sender) :=
  fun path => invalidInput_optional path

theorem bind_error {α β : Type} {x : ExceptT Failure (StateM Tree) α}
    {f : α → ExceptT Failure (StateM Tree) β} {failure : Failure}
    (h : ((x >>= f).run tree).1 = .error failure) :
    (x.run tree).1 = .error failure ∨ ∃ a between, ((f a).run between).1 = .error failure := by
  have hrun : (StateT.run (ExceptT.bindCont f (x.run tree).1) (x.run tree).2).1 =
    .error failure := h
  cases hx : (x.run tree).1 with
  | error cause =>
    rw [hx] at hrun
    exact Or.inl (congrArg Except.error (Except.error.inj hrun))
  | ok a =>
    rw [hx] at hrun
    exact Or.inr ⟨a, _, hrun⟩

theorem ensure_error {changed : StateM Tree Bool} {failure cause : Failure}
    (h : ((ensure changed cause).run tree).1 = .error failure) : failure = cause := by
  rcases bind_error h with hchanged | ⟨done, between, hdone⟩
  · cases hchanged
  · cases done <;> cases hdone
    rfl

/-- Saving fails over a file only. -/
theorem status_of_save {path : String} {conversation : Conversation} {failure : Failure}
    (h : ((save Tree.access path conversation).run tree).1 = .error failure) :
    failure.status = .invalid := by
  have hmoved : ∀ {between : Tree} {written replaced : StateM Tree Bool} {first second : Failure},
      first.status = .invalid → second.status = .invalid →
      (((do ensure written first; ensure replaced second) :
        ExceptT Failure (StateM Tree) Unit).run between).1 = .error failure →
      failure.status = .invalid := by
    intro between written replaced first second hfirst hsecond h
    rcases bind_error h with hwrite | ⟨_, _, hreplace⟩
    · rw [ensure_error hwrite, hfirst]
    · rw [ensure_error hreplace, hsecond]
  unfold save at h
  dsimp only at h
  split at h
  · rcases bind_error h with hmake | ⟨_, between, hrest⟩
    · rw [ensure_error hmake]
      rfl
    · exact hmoved rfl rfl hrest
  · exact hmoved rfl rfl h

/-! ## The status of a command -/

/-- The report on the turn of a conversation; a committing command saves what it predicts. -/
def turnReport (tree : Tree) (state : String) (commit : Bool) (conversation : Conversation) :
    Except FlowError Prediction → Report
  | .error cause => .failed "" (.flow cause)
  | .ok prediction =>
    if commit then
      .ofExcept (predictionText prediction)
        ((save Tree.access state (conversation.recordAll prediction.committed)).run tree).1
    else .succeeded (predictionText prediction)

theorem Turns.run {flows domainPath state config : String} {slots : List (String × Json)}
    {commit : Bool} {conversation : Conversation} {result : Except FlowError Prediction}
    (h : Turns services tree (.advance flows domainPath state slots commit config) conversation
      result) :
    (Command.run services Tree.access (.advance flows domainPath state slots commit config)
      tree).1 = turnReport tree state commit conversation result := by
  unfold Command.run
  simp only [bind, StateT.bind, h.run_predict]
  cases result with
  | error cause => rfl
  | ok prediction => cases commit <;> rfl

theorem run_validate (services : Services) (tree : Tree) (flows : String) :
    (run services Tree.access (.validate flows) tree).1 =
      match catalogOf flows (tree.read flows) with
      | .ok catalog => .succeeded s!"{catalog.length} flows valid\n"
      | .error failure => .failed "" failure := by
  have hrun : (load Tree.access flows catalogOf).run tree =
    (catalogOf flows (tree.read flows), tree) := rfl
  unfold run
  simp only [bind, StateT.bind, hrun]
  cases catalogOf flows (tree.read flows) <;> rfl

theorem run_start (services : Services) (tree : Tree) (state flowId : String)
    (flows : Option String) (kind : FrameKind) (domainPath : String) :
    (run services Tree.access (.start state flowId flows kind domainPath) tree).1 =
      .ofExcept "" ((runStart Tree.access state flowId flows kind domainPath).run tree).1 := rfl

/-- A command that does what it is for has the status of success. -/
theorem status_of_succeeds (h : Succeeds services tree command) :
    (command.run services Tree.access tree).1.status = .success := by
  cases h with
  | validated hcatalog =>
    rw [run_validate, hcatalog]
    rfl
  | printed hturn =>
    rw [hturn.run]
    rfl
  | saved hknown hsaves hsave =>
    cases hsaves with
    | started hdomain hsaved hevent =>
      rw [run_start, run_runStart hknown hdomain hsaved, hevent]
      dsimp only
      rw [hsave]
      rfl
    | advanced hsettings hcatalog hdomain hsaved hslots hturn =>
      rw [(Turns.turned hsettings hcatalog hdomain hsaved hslots hturn).run, turnReport,
        if_pos rfl, hsave]
      rfl

theorem status_of_flowFails {cause : FlowError} (h : FlowFails services tree command cause) :
    (command.run services Tree.access tree).1.status = (Failure.flow cause).status := by
  cases h with
  | turn hturn =>
    have hcommand := hturn
    cases hcommand with
    | turned =>
      rw [hturn.run]
      rfl
  | stack hknown hdomain hsaved hstack =>
    rw [run_start, run_runStart hknown hdomain hsaved, startEvent, hstack]
    rfl

/-- A conversation is saved, or a file cannot be written. -/
theorem saved_or_invalid (tree : Tree) (output path : String) (conversation : Conversation) :
    ((save Tree.access path conversation).run tree).1 = .ok () ∨
      (Report.ofExcept output ((save Tree.access path conversation).run tree).1).status =
        .invalid := by
  cases h : ((save Tree.access path conversation).run tree).1 with
  | ok done => exact Or.inl rfl
  | error failure => exact Or.inr (status_of_save h)

/-- `start` stops at an invalid input, or it knows its flow and reads its files. -/
theorem refuses_or_starts (tree : Tree) (state flowId : String) (flows : Option String)
    (kind : FrameKind) (domainPath : String) :
    Refuses tree (runStart Tree.access state flowId flows kind domainPath) ∨
      KnowsFlow tree (.start state flowId flows kind domainPath) ∧ ∃ domain saved,
        domainOf domainPath (tree.read domainPath) = .ok domain ∧
        savedOf state defaultSender (tree.read state) = .ok saved := by
  have hreads : ∀ f : Domain → Conversation → ExceptT Failure (StateM Tree) Unit,
      Refuses tree (do
        let domain ← load Tree.access domainPath domainOf
        let conversation ← loadConversation Tree.access state domain
        f domain conversation) ∨ ∃ domain saved,
          domainOf domainPath (tree.read domainPath) = .ok domain ∧
          savedOf state defaultSender (tree.read state) = .ok saved := by
    intro f
    rcases refuses_or_load invalidInput_domainOf _ with h | ⟨domain, hdomain⟩
    · exact Or.inl h
    unfold Refuses
    rw [run_load_ok hdomain, loadConversation, bind_assoc]
    rcases refuses_or_load (invalidInput_savedOf defaultSender) _ with h | ⟨saved, hsaved⟩
    · exact Or.inl h
    exact Or.inr ⟨domain, saved, hdomain, hsaved⟩
  unfold runStart
  cases flows with
  | none => exact (hreads _).imp_right fun h => ⟨trivial, h⟩
  | some path =>
    dsimp only
    rw [checkFlow, bind_assoc]
    rcases refuses_or_load invalidInput_catalogOf _ with h | ⟨catalog, hcatalog⟩
    · exact Or.inl h
    unfold Refuses
    rw [run_load_ok hcatalog]
    cases hflow : (Pattern.addTo catalog).flow? flowId with
    | none => exact Or.inl ⟨.unknownFlow flowId path, rfl, rfl⟩
    | some flow => exact (hreads _).imp_right fun h => ⟨⟨catalog, hcatalog, by rw [hflow]; rfl⟩, h⟩

/-- `advance` stops at an invalid input, or it has a turn. -/
theorem refuses_or_turns (services : Services) (tree : Tree) (flows domainPath state : String)
    (slots : List (String × Json)) (commit : Bool) (config : String) :
    Refuses tree (predict services Tree.access flows domainPath state slots config) ∨
      ∃ conversation result,
        Turns services tree (.advance flows domainPath state slots commit config) conversation
          result := by
  unfold predict
  rcases refuses_or_load invalidInput_settingsOf _ with h | ⟨settings, hsettings⟩
  · exact Or.inl h
  unfold Refuses
  rw [run_load_ok hsettings]
  rcases refuses_or_load invalidInput_catalogOf _ with h | ⟨catalog, hcatalog⟩
  · exact Or.inl h
  rw [run_load_ok hcatalog]
  rcases refuses_or_load invalidInput_domainOf _ with h | ⟨domain, hdomain⟩
  · exact Or.inl h
  rw [run_load_ok hdomain, loadConversation, bind_assoc]
  rcases refuses_or_load (invalidInput_savedOf defaultSender) _ with h | ⟨saved, hsaved⟩
  · exact Or.inl h
  exact Or.inr ⟨_, _, .turned hsettings hcatalog hdomain hsaved rfl rfl⟩

/-- A command that neither succeeds nor fails over a flow stops at an invalid input, or at a file
that it cannot write. -/
theorem run_cases (services : Services) (tree : Tree) (command : Command) :
    Succeeds services tree command ∨ (∃ cause, FlowFails services tree command cause) ∨
      (command.run services Tree.access tree).1.status = .invalid := by
  cases command with
  | validate flows =>
    cases hcatalog : catalogOf flows (tree.read flows) with
    | ok catalog => exact Or.inl (.validated hcatalog)
    | error failure =>
      refine Or.inr (Or.inr ?_)
      rw [run_validate, hcatalog]
      exact invalidInput_catalogOf _ _ _ hcatalog
  | start state flowId flows kind domainPath =>
    rcases refuses_or_starts tree state flowId flows kind domainPath with
      ⟨failure, hstatus, hrun⟩ | ⟨hknown, domain, saved, hdomain, hsaved⟩
    · refine Or.inr (Or.inr ?_)
      rw [run_start, hrun]
      exact hstatus
    · cases hstack : Stack.ofConversation (saved.toConversation domain) with
      | error cause => exact Or.inr (Or.inl ⟨_, .stack hknown hdomain hsaved hstack⟩)
      | ok stack =>
        have hevent : startEvent (saved.toConversation domain) flowId kind =
            .ok (stack.push (.atStart flowId kind)).persist := by
          rw [startEvent, hstack]
        rcases saved_or_invalid tree "" state ((saved.toConversation domain).record
          (stack.push (.atStart flowId kind)).persist) with hsave | hinvalid
        · exact Or.inl (.saved hknown (.started hdomain hsaved hevent) hsave)
        · refine Or.inr (Or.inr ?_)
          rw [run_start, run_runStart hknown hdomain hsaved, hevent]
          exact hinvalid
  | advance flows domainPath state slots commit config =>
    rcases refuses_or_turns services tree flows domainPath state slots commit config with
      ⟨failure, hstatus, hrun⟩ | ⟨conversation, result, hturns⟩
    · refine Or.inr (Or.inr ?_)
      rw [← hstatus]
      unfold run
      simp only [bind, StateT.bind, hrun]
      rfl
    · cases result with
      | error cause => exact Or.inr (Or.inl ⟨cause, .turn hturns⟩)
      | ok prediction =>
        cases commit with
        | false => exact Or.inl (.printed hturns)
        | true =>
          rcases saved_or_invalid tree (predictionText prediction) state
            (conversation.recordAll prediction.committed) with hsave | hinvalid
          · refine Or.inl (.saved trivial ?_ hsave)
            cases hturns with
            | turned hsettings hcatalog hdomain hsaved hslots hturn =>
              exact .advanced hsettings hcatalog hdomain hsaved hslots hturn
          · refine Or.inr (Or.inr ?_)
            rw [hturns.run]
            exact hinvalid

/-! ## The status of a call -/

/-- The call succeeds: it asks for the version or for help, or for a command that does what it is
for. -/
def CallSucceeds (services : Services) (tree : Tree) (arguments : List String) : Prop :=
  ofArguments? arguments = some .version ∨ (∃ topic, ofArguments? arguments = some (.help topic)) ∨
    ∃ command, ofArguments? arguments = some (.run command) ∧ Succeeds services tree command

/-- The call asks for a command that fails over this error of a flow. -/
def CallFails (services : Services) (tree : Tree) (arguments : List String) (cause : FlowError) :
    Prop :=
  ∃ command, ofArguments? arguments = some (.run command) ∧ FlowFails services tree command cause

/-- The breaker stops the turn of the command that the call asks for. -/
def CallBreaks (services : Services) (tree : Tree) (arguments : List String) : Prop :=
  ∃ command conversation stack steps, ofArguments? arguments = some (.run command) ∧
    Turns services tree command conversation (.error (.circuitBreakerTripped stack steps))

/-- The number tells how a call ends: 2 for a turn that the breaker stops, 3 for any other error of
a flow, 0 for success, and 1 for every other failure. -/
structure Classifies (services : Services) (tree : Tree) (arguments : List String) (code : Nat) :
    Prop where
  breaker : code = 2 ↔ CallBreaks services tree arguments
  flow : code = 3 ↔ ∃ cause, CallFails services tree arguments cause ∧
    ∀ stack steps, cause ≠ .circuitBreakerTripped stack steps
  success : code = 0 ↔ CallSucceeds services tree arguments
  other : code = 1 ↔ ¬ CallSucceeds services tree arguments ∧
    ∀ cause, ¬ CallFails services tree arguments cause

variable {arguments : List String}

/-- The breaker stops nothing but turns. -/
theorem callBreaks_iff : CallBreaks services tree arguments ↔
    ∃ stack steps, CallFails services tree arguments (.circuitBreakerTripped stack steps) := by
  constructor
  · rintro ⟨command, conversation, stack, steps, hasked, hturns⟩
    exact ⟨stack, steps, command, hasked, .turn hturns⟩
  · rintro ⟨stack, steps, command, hasked, hfails⟩
    cases hfails with
    | turn hturns => exact ⟨command, _, stack, steps, hasked, hturns⟩

theorem code_flow (cause : FlowError) :
    (∀ stack steps, cause ≠ .circuitBreakerTripped stack steps) ∧
        (Failure.flow cause).status.code = 3 ∨
      (∃ stack steps, cause = .circuitBreakerTripped stack steps) ∧
        (Failure.flow cause).status.code = 2 := by
  cases cause with
  | circuitBreakerTripped stack steps => exact Or.inr ⟨⟨stack, steps, rfl⟩, rfl⟩
  | _ => exact Or.inl ⟨fun _ _ => nofun, rfl⟩

/-- A number that success and each error of a flow determine, and that is 1 otherwise, tells how the
call ends. -/
theorem classifies_of_cases {code : Nat}
    (hsuccess : CallSucceeds services tree arguments → code = 0)
    (hfails : ∀ cause, CallFails services tree arguments cause →
      code = (Failure.flow cause).status.code)
    (hcases : CallSucceeds services tree arguments ∨
      (∃ cause, CallFails services tree arguments cause) ∨ code = 1) :
    Classifies services tree arguments code := by
  have hbreaks : CallBreaks services tree arguments → code = 2 := by
    rw [callBreaks_iff]
    rintro ⟨stack, steps, hfail⟩
    exact hfails _ hfail
  have hflow : ∀ cause, CallFails services tree arguments cause →
      (∀ stack steps, cause ≠ .circuitBreakerTripped stack steps) ∧ code = 3 ∨
        CallBreaks services tree arguments ∧ code = 2 := by
    intro cause hfail
    rw [hfails cause hfail]
    rcases code_flow cause with h | ⟨⟨stack, steps, rfl⟩, hcode⟩
    · exact Or.inl h
    · exact Or.inr ⟨callBreaks_iff.mpr ⟨stack, steps, hfail⟩, hcode⟩
  refine ⟨⟨fun hcode => ?_, hbreaks⟩, ⟨fun hcode => ?_, ?_⟩, ⟨fun hcode => ?_, hsuccess⟩,
    ⟨fun hcode => ⟨fun hs => ?_, fun cause hfail => ?_⟩, ?_⟩⟩
  · rcases hcases with hs | ⟨cause, hfail⟩ | hother
    · have := hsuccess hs
      omega
    · rcases hflow cause hfail with ⟨-, h⟩ | ⟨h, -⟩
      · omega
      · exact h
    · omega
  · rcases hcases with hs | ⟨cause, hfail⟩ | hother
    · have := hsuccess hs
      omega
    · rcases hflow cause hfail with ⟨h, -⟩ | ⟨-, h⟩
      · exact ⟨cause, hfail, h⟩
      · omega
    · omega
  · rintro ⟨cause, hfail, hother⟩
    rcases code_flow cause with ⟨-, h⟩ | ⟨⟨stack, steps, heq⟩, -⟩
    · rw [hfails cause hfail, h]
    · exact absurd heq (hother stack steps)
  · rcases hcases with hs | ⟨cause, hfail⟩ | hother
    · exact hs
    · rcases hflow cause hfail with ⟨-, h⟩ | ⟨-, h⟩ <;> omega
    · omega
  · have := hsuccess hs
    omega
  · rcases hflow cause hfail with ⟨-, h⟩ | ⟨-, h⟩ <;> omega
  · rintro ⟨hno, hnone⟩
    rcases hcases with hs | ⟨cause, hfail⟩ | hother
    · exact absurd hs hno
    · exact absurd hfail (hnone cause)
    · exact hother

/-- A command that is run is not misused. -/
theorem status_ne_usage (services : Services) (tree : Tree) (command : Command) :
    (command.run services Tree.access tree).1.status ≠ .usage := by
  rcases run_cases services tree command with hsucceeds | ⟨cause, hfails⟩ | hinvalid
  · rw [status_of_succeeds hsucceeds]
    decide
  · rw [status_of_flowFails hfails, Failure.status]
    cases cause.isInterpretation <;> decide
  · rw [hinvalid]
    decide

/-- A call that succeeds without a command has the number of success. -/
theorem classifies_of_told (hsuccess : CallSucceeds services tree arguments)
    (hrun : ∀ command, ofArguments? arguments ≠ some (.run command)) :
    Classifies services tree arguments Status.success.code := by
  refine classifies_of_cases (fun _ => rfl) ?_ (Or.inl hsuccess)
  rintro cause ⟨command, hcommand, -⟩
  exact absurd hcommand (hrun command)

/-- A call that runs a command has the number of the command's status. -/
theorem classifies_of_run (h : ofArguments? arguments = some (.run command)) :
    Classifies services tree arguments (command.run services Tree.access tree).1.status.code := by
  have hsame : ∀ {other}, ofArguments? arguments = some (.run other) → other = command := by
    intro other hother
    cases h.symm.trans hother
    rfl
  refine classifies_of_cases ?_ ?_ ?_
  · rintro (hversion | ⟨topic, hhelp⟩ | ⟨other, hother, hsucceeds⟩)
    · cases h.symm.trans hversion
    · cases h.symm.trans hhelp
    · rw [hsame hother] at hsucceeds
      rw [status_of_succeeds hsucceeds]
      rfl
  · rintro cause ⟨other, hother, hfails⟩
    rw [status_of_flowFails (hsame hother ▸ hfails)]
  · rcases run_cases services tree command with hsucceeds | ⟨cause, hfails⟩ | hinvalid
    · exact Or.inl (Or.inr (Or.inr ⟨command, h, hsucceeds⟩))
    · exact Or.inr (Or.inl ⟨cause, command, h, hfails⟩)
    · exact Or.inr (Or.inr (by rw [hinvalid]; rfl))

/-- Arguments that can be read have a number that tells how the call ends, and are not misused. -/
theorem classifies_of_ofArguments? (program : Program) (tree : Tree) {request : Request}
    (h : ofArguments? arguments = some request) :
    let report := (program.run Tree.access arguments tree).1
    Classifies program.services tree arguments report.status.code ∧ report.status ≠ .usage := by
  intro report
  cases request with
  | version =>
    have hreport : report = .succeeded versionText :=
      congrArg Prod.fst (program.run_of_version h tree)
    rw [hreport]
    exact ⟨classifies_of_told (Or.inl h) (fun _ hrun => nomatch h.symm.trans hrun), nofun⟩
  | help topic =>
    have hreport : report = .succeeded (program.helpText topic) :=
      congrArg Prod.fst (program.run_of_help h tree)
    rw [hreport]
    exact ⟨classifies_of_told (Or.inr (Or.inl ⟨topic, h⟩))
      (fun _ hrun => nomatch h.symm.trans hrun), nofun⟩
  | run command =>
    have hreport : report = (command.run program.services Tree.access tree).1 :=
      congrArg Prod.fst (program.run_of_run h tree)
    rw [hreport]
    exact ⟨classifies_of_run h, status_ne_usage program.services tree command⟩

/-- Arguments that are no command run no turn, so the number of the breaker is wrong for them. -/
theorem not_classifies_of_none (h : ofArguments? arguments = none) :
    ¬ CallBreaks services tree arguments ∧
      ¬ Classifies services tree arguments misused.status.code := by
  have hbreaks : ¬ CallBreaks services tree arguments := by
    rintro ⟨command, _, _, _, hcommand, -⟩
    cases h.symm.trans hcommand
  exact ⟨hbreaks, fun hclassifies => hbreaks (hclassifies.breaker.mp rfl)⟩

/-- Whatever the services and the texts of help are, the number of the status tells how the call
ends exactly if the arguments can be read. Those that cannot are reported as misused, with the
number of the breaker. -/
theorem classifies_iff (program : Program) (tree : Tree) (arguments : List String) :
    let report := (program.run Tree.access arguments tree).1
    (Classifies program.services tree arguments report.status.code ↔
      ofArguments? arguments ≠ none) ∧
    (report = misused ↔ ofArguments? arguments = none) ∧ misused.status.code = 2 := by
  intro report
  cases h : ofArguments? arguments with
  | none =>
    have hreport : report = misused := congrArg Prod.fst (program.run_of_none h tree)
    refine ⟨⟨fun hclassifies => ?_, fun hsome => absurd rfl hsome⟩,
      ⟨fun _ => rfl, fun _ => hreport⟩, rfl⟩
    rw [hreport] at hclassifies
    exact absurd hclassifies (not_classifies_of_none h).2
  | some request =>
    obtain ⟨hclassifies, hstatus⟩ := classifies_of_ofArguments? program tree h
    refine ⟨⟨fun _ => nofun, fun _ => hclassifies⟩, ⟨fun hmisused => ?_, nofun⟩, rfl⟩
    exact absurd (congrArg Report.status hmisused) hstatus

/-- A slot without a sign cannot be read from the arguments. The call fails with the number of the
breaker, though no turn is run. -/
theorem malformed_slot_misclassified :
    let arguments := advanceWith "novalue"
    let code := (executor.run Tree.access arguments withoutFlows).1.status.code
    code = 2 ∧ ¬ CallBreaks executor.services withoutFlows arguments ∧
      ¬ Classifies executor.services withoutFlows arguments code := by
  intro arguments code
  have hnone : ofArguments? arguments = none := by
    rw [ofArguments?_advanceWith (by decide +kernel),
      show slot? "novalue" = none by decide +kernel, Option.map_none]
  have hcode : code = misused.status.code := by
    show (executor.run Tree.access arguments withoutFlows).1.status.code = _
    rw [executor.run_of_none hnone]
  obtain ⟨hbreaks, hclassifies⟩ :=
    @not_classifies_of_none executor.services withoutFlows arguments hnone
  rw [hcode]
  exact ⟨rfl, hbreaks, hclassifies⟩

end DialogueFlow.Command
