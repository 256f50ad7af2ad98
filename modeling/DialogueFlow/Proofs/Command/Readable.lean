/-
  Conversations that commands save can be read again, with one exception. Main statement:
  `session_reads_back`. The state file that a sequence of commands leaves is read as the conversation
  that the last of them saved exactly if no value in its events is nested deeper than
  `storableDepth`. Values of the catalog and of a state file never are; slots from the arguments may
  be nested up to three levels deeper, and initial values as deep as the domain nests them.
-/
import DialogueFlow.Proofs.Command.Outcome
import DialogueFlow.Proofs.Command.Requests
import DialogueFlow.Proofs.Toml.Normal
import DialogueFlow.Proofs.Turn.Contents

namespace DialogueFlow.Command

open Files (Tree)
open SavedConversation (storableDepth)

variable {services : Services} {tree : Tree} {path sender : String} {command : Command}
  {arguments : List String}

/-! ## Values from outside -/

/-- The initial values that the domain of a file declares. -/
def initialValues (tree : Tree) (path : String) : List Json :=
  match domainOf path (tree.read path) with
  | .ok domain => domain.slots.map (·.2)
  | .error _ => []

/-- The values that a command takes from its arguments and from its domain. -/
def offered (tree : Tree) : Command → List Json
  | .validate _ => []
  | .start _ _ _ _ domainPath => initialValues tree domainPath
  | .advance _ domainPath _ slots _ _ => slots.map (·.2) ++ initialValues tree domainPath

/-- A text is read as a normal value, or else stands for itself. -/
theorem normal_parseOrText (text : String) : ((Json.parse? text).getD (.str text)).IsNormal := by
  cases h : Json.parse? text with
  | none => exact trivial
  | some value => exact Json.isNormal_of_parse? h

theorem normal_of_slot? {text : String} {slot : String × Json} (h : slot? text = some slot) :
    slot.2.IsNormal := by
  unfold slot? at h
  dsimp only at h
  split at h
  · cases h
  · obtain ⟨-, h⟩ := Option.ite_none_left_eq_some.mp h
    rw [← Option.some.inj h]
    exact normal_parseOrText _

theorem normal_of_slots? {given : Given} {slots : List (String × Json)}
    (h : slots? given = some slots) : ∀ slot ∈ slots, slot.2.IsNormal := by
  have hgiven := given_of_slots? h
  generalize given.filter (·.1 = "slot") = options at hgiven
  clear h
  induction hgiven with
  | nil => exact fun _ hslot => nomatch hslot
  | cons hslot _ ih =>
    obtain ⟨text, -, htext⟩ := Option.bind_eq_some_iff.mp hslot
    exact List.forall_mem_cons.mpr ⟨normal_of_slot? htext, ih⟩

theorem ok_of_toOption {α ε : Type} {x : Except ε α} {a : α} (h : x.toOption = some a) :
    x = .ok a := by
  cases x with
  | error e => cases h
  | ok b => exact congrArg Except.ok (Option.some.inj h)

theorem normal_of_domainOf {reading : Files.Reading} {domain : Domain}
    (h : domainOf path reading = .ok domain) : ∀ entry ∈ domain.slots, entry.2.IsNormal := by
  unfold domainOf optionalInput at h
  split at h
  · cases h
    exact fun _ hentry => nomatch hentry
  · cases h
  · split at h
    · rename_i hread
      cases h
      unfold decodeToml? at hread
      split at hread
      · cases hread
      · rename_i value hparse
        have hvalue : value.IsNormal := Toml.isNormal_of_parse? hparse
        exact Domain.gives .ignored value domain (fun _ => hvalue.of_mem_parts)
          (ok_of_toOption hread)
    · cases h

theorem normal_initialValues (tree : Tree) (path : String) :
    ∀ value ∈ initialValues tree path, value.IsNormal := by
  unfold initialValues
  split
  · rename_i domain hdomain
    exact List.forall_mem_map.mpr (normal_of_domainOf hdomain)
  · exact fun _ h => nomatch h

/-- The values that a command takes from outside are normal. -/
theorem normal_offered (hcommand : ofArguments? arguments = some (.run command)) (tree : Tree) :
    ∀ value ∈ command.offered tree, value.IsNormal := by
  rcases ofArguments?_cases hcommand with
    ⟨flows, rfl⟩ | ⟨state, flowId, flows, kind, domainPath, rfl⟩ |
      ⟨given, flows, domainPath, state, slots, commit, config, -, hslots, rfl⟩
  · exact fun _ hvalue => nomatch hvalue
  · exact normal_initialValues tree domainPath
  · exact List.forall_mem_append.mpr
      ⟨List.forall_mem_map.mpr (normal_of_slots? hslots), normal_initialValues tree domainPath⟩

/-! ## Values that are saved -/

theorem valuesFit_of_savedOf {reading : Files.Reading} {saved : SavedConversation}
    (h : savedOf path sender reading = .ok saved) : Event.ValuesFit storableDepth saved.events := by
  unfold savedOf optionalInput at h
  split at h
  · cases h
    exact Event.valuesFit_nil
  · cases h
  · split at h
    · rename_i hread
      cases h
      exact SavedConversation.valuesFit_of_ofText? hread
    · cases h

/-- A loaded conversation fits if the initial values of its domain do. -/
theorem slotsFit_toConversation {n : Nat} (hn : storableDepth ≤ n) {reading : Files.Reading}
    {saved : SavedConversation} (hsaved : savedOf path sender reading = .ok saved) {domain : Domain}
    (hdomain : ∀ entry ∈ domain.slots, entry.2.Fits n) :
    Event.ValuesFit n saved.events ∧ (saved.toConversation domain).SlotsFit n := by
  have hevents : Event.ValuesFit n saved.events :=
    fun value hvalue => (valuesFit_of_savedOf hsaved value hvalue).mono hn
  exact ⟨hevents, (Conversation.slotsFit_fresh hdomain _).recordAll hevents⟩

theorem valuesFit_action {n : Nat} (action : Option String) :
    Event.ValuesFit n (action.map Event.actionExecuted).toList := by
  cases action <;> exact fun _ h => nomatch h

/-- The catalog of a turn sets values that can be stored. -/
theorem sets_settingsCatalog {n : Nat} (hn : storableDepth ≤ n) {reading : Files.Reading}
    {catalog : Catalog} (h : catalogOf path reading = .ok catalog) (settings : Settings) :
    (settings.catalog catalog).Sets (Json.Fits n) := by
  have hsets : catalog.Sets (Json.Fits n) := by
    unfold catalogOf at h
    split at h
    · rename_i text
      cases hload : Catalog.load text with
      | error cause =>
        rw [hload] at h
        cases h
      | ok found =>
        rw [hload] at h
        cases h
        exact (Catalog.sets_of_load hload).mono fun _ hvalue =>
          hvalue.mono (Nat.le_trans (by decide) hn)
    · cases h
  unfold Settings.catalog
  split
  · exact Pattern.sets_addTo hsets
  · exact hsets

theorem valuesFit_startEvent {n : Nat} {conversation : Conversation}
    (h : conversation.SlotsFit (n + 2)) {flowId : String} {kind : FrameKind} {event : Event}
    (hevent : startEvent conversation flowId kind = .ok event) :
    Event.ValuesFit (n + 2) [event] := by
  unfold startEvent at hevent
  split at hevent
  · cases hevent
  · rename_i stack hstack
    cases hevent
    have hcontexts : Stack.ContextsFit n (stack.push (.atStart flowId kind)) :=
      Stack.contextsFit_cons.mpr ⟨(fun _ h => nomatch h), h.contextsFit hstack⟩
    exact Event.valuesFit_slotSet (Stack.fits_toJson hcontexts)

/-- The values that a command saves fit if those that it takes from outside do. -/
theorem Saves.valuesFit {conversation : Conversation} {n : Nat} (hn : storableDepth ≤ n)
    (h : Saves services tree command path conversation)
    (hoffered : ∀ value ∈ command.offered tree, value.Fits n) :
    Event.ValuesFit n conversation.events := by
  have hstorable : storableDepth = 124 := rfl
  obtain ⟨n, rfl⟩ : ∃ m, n = m + 2 := ⟨n - 2, by omega⟩
  have hinitial : ∀ {domainPath : String} {domain : Domain},
      (∀ value ∈ initialValues tree domainPath, value.Fits (n + 2)) →
      domainOf domainPath (tree.read domainPath) = .ok domain →
      ∀ entry ∈ domain.slots, entry.2.Fits (n + 2) := by
    intro domainPath domain hvalues hdomain
    rw [initialValues, hdomain] at hvalues
    exact List.forall_mem_map.mp hvalues
  cases h with
  | started hdomain hsaved hevent =>
    obtain ⟨hevents, hslots⟩ := slotsFit_toConversation hn hsaved (hinitial hoffered hdomain)
    have hstart := valuesFit_startEvent hslots hevent
    rw [Conversation.record, events_toConversation]
    exact hevents.append hstart
  | advanced hsettings hcatalog hdomain hsaved hslots hturn =>
    rename_i slots settings catalog domain saved started prediction
    obtain ⟨hgiven, hdeclared⟩ := List.forall_mem_append.mp hoffered
    obtain ⟨hevents, hloaded⟩ := slotsFit_toConversation hn hsaved (hinitial hdeclared hdomain)
    have hassigned : Event.ValuesFit (n + 2) (slots.map fun slot => .slotSet slot.1 slot.2) :=
      Event.valuesFit_map (List.forall_mem_map.mp hgiven)
    have hstarted : started.SlotsFit (n + 2) := hslots ▸ hloaded.recordAll hassigned
    have hsets := sets_settingsCatalog hn hcatalog settings
    have hprediction : Event.ValuesFit (n + 2) prediction.committed :=
      (Turn.valuesFit_advance (by unfold Pattern.contextDepth; omega) hstarted hsets hturn).append
        (valuesFit_action prediction.action)
    rw [Conversation.events_recordAll, hslots, Conversation.events_recordAll,
      events_toConversation]
    exact (hevents.append hassigned).append hprediction

theorem savedOf_text {saved : SavedConversation}
    (hnumbers : ∀ value ∈ Event.values saved.events, value.NumbersRoundTrip)
    (hnormal : ∀ value ∈ Event.values saved.events, value.IsNormal) :
    savedOf path sender (.text saved.text) =
      if ∀ value ∈ Event.values saved.events, value.depth ≤ storableDepth then .ok saved
      else .error (.malformed path) := by
  rw [savedOf, optionalInput, SavedConversation.ofText?_text hnumbers,
    SavedConversation.map_normalEvent hnormal]
  by_cases hle : ∀ value ∈ Event.values saved.events, value.depth ≤ storableDepth
  · rw [if_pos hle, if_pos hle]
  · rw [if_neg hle, if_neg hle]

/-- A saved conversation is read back as it was unless a value in its events is nested too deep for
the file; the values of commands are so only if one was that came from outside. -/
theorem Saves.reads_back {conversation : Conversation}
    (h : Saves services tree command path conversation)
    (hnormal : ∀ value ∈ command.offered tree, value.IsNormal) :
    let values := Event.values conversation.events
    ((∀ value ∈ values, value.NumbersRoundTrip) → ∀ sender,
      savedOf path sender (.text (SavedConversation.ofConversation conversation).text) =
        if ∀ value ∈ values, value.depth ≤ storableDepth then .ok (.ofConversation conversation)
        else .error (.malformed path)) ∧
    ((∀ value ∈ command.offered tree, value.depth ≤ storableDepth) →
      ∀ value ∈ values, value.depth ≤ storableDepth) := by
  intro values
  -- however deep the values from outside are nested, there is a bound on all of them
  have hbound : ∀ value ∈ command.offered tree,
      value.Fits (max storableDepth (Json.itemsDepth (command.offered tree))) := by
    intro value hvalue
    have hdepth := Json.itemsDepth_le.mp (Nat.le_refl (Json.itemsDepth (command.offered tree)))
    exact ⟨hnormal value hvalue, Nat.le_trans (hdepth value hvalue) (Nat.le_max_right _ _)⟩
  have hvalues := h.valuesFit (Nat.le_max_left _ _) hbound
  constructor
  · intro hnumbers sender
    exact savedOf_text hnumbers fun value hvalue => (hvalues value hvalue).normal
  · intro hshallow value hvalue
    have hfits := h.valuesFit (Nat.le_refl _) fun value hvalue =>
      ⟨hnormal value hvalue, hshallow value hvalue⟩
    exact (hfits value hvalue).depth_le

/-! ## Sequences of commands -/

/-- Runs the program on one list of arguments after another. -/
def runAll (program : Program) (calls : List (List String)) : StateM Tree (List Report) :=
  calls.mapM (program.run Tree.access)

theorem runAll_singleton (program : Program) (arguments : List String) (tree : Tree) :
    runAll program [arguments] tree =
      let last := program.run Tree.access arguments tree
      ([last.1], last.2) := rfl

theorem runAll_append (program : Program) (calls : List (List String)) (arguments : List String)
    (tree : Tree) :
    runAll program (calls ++ [arguments]) tree =
      let before := runAll program calls tree
      let last := program.run Tree.access arguments before.2
      (before.1 ++ [last.1], last.2) := by
  unfold runAll
  rw [List.mapM_append, List.mapM_cons, List.mapM_nil]
  rfl

/-- With any services, a sequence of commands that all succeed, and the last of which writes its
state file, leaves a file that is read as the conversation that was saved there, unless a value in
its events is nested too deep for it. That is so only if a slot among the arguments or an initial
value of the domain was. -/
theorem session_reads_back {program : Program} {calls : List (List String)}
    {arguments : List String} {command : Command} {tree : Tree}
    (hcommand : ofArguments? arguments = some (.run command)) (hwrites : command.writes = true)
    (hsuccess : ∀ report ∈ (runAll program (calls ++ [arguments]) tree).1,
      report.status = .success) :
    let before := (runAll program calls tree).2
    let after := (runAll program (calls ++ [arguments]) tree).2
    ∃ path conversation, Saves program.services before command path conversation ∧
      (save Tree.access path conversation).run before = (.ok (), after) ∧
      let values := Event.values conversation.events
      ((∀ value ∈ values, value.NumbersRoundTrip) → ∀ sender,
        savedOf path sender (after.read path) =
          if ∀ value ∈ values, value.depth ≤ storableDepth then .ok (.ofConversation conversation)
          else .error (.malformed path)) ∧
      ((∀ value ∈ command.offered before, value.depth ≤ storableDepth) →
        ∀ value ∈ values, value.depth ≤ storableDepth) := by
  intro before after
  have hlast : program.run Tree.access arguments before =
      command.run program.services Tree.access before := program.run_of_run hcommand before
  have hafter : after = (command.run program.services Tree.access before).2 := by
    rw [← hlast]
    exact congrArg Prod.snd (runAll_append program calls arguments tree)
  rw [runAll_append] at hsuccess
  have hstatus : (command.run program.services Tree.access before).1.status = .success := by
    rw [← hlast]
    exact hsuccess _ (List.mem_append_right _ (List.mem_singleton_self _))
  obtain ⟨path, conversation, hsaves, hsave⟩ := run_saves hwrites hstatus
  rw [← hafter] at hsave
  have hread := save_ok hsave
  refine ⟨path, conversation, hsaves, hsave, ?_⟩
  rw [hread]
  exact hsaves.reads_back (normal_offered hcommand before)

/-! ## Slots over a catalog without flows -/

/-- Without frames nothing happens in a turn: only the given slots are added. -/
theorem Saves.without_frames {flows domainPath state config : String}
    {slots : List (String × Json)} {conversation : Conversation} {saved : SavedConversation}
    {domain : Domain}
    (h : Saves services tree (.advance flows domainPath state slots true config) path conversation)
    (hsaved : savedOf state defaultSender (tree.read state) = .ok saved)
    (hdomain : domainOf domainPath (tree.read domainPath) = .ok domain)
    (hframes : Stack.ofConversation ((saved.toConversation domain).recordAll
      (slots.map fun slot => .slotSet slot.1 slot.2)) = .ok []) :
    path = state ∧ conversation = (saved.toConversation domain).recordAll
      (slots.map fun slot => .slotSet slot.1 slot.2) := by
  cases h with
  | advanced _ _ hothersDomain hothersSaved hslots hturn =>
    obtain rfl := Except.ok.inj (hothersDomain.symm.trans hdomain)
    obtain rfl := Except.ok.inj (hothersSaved.symm.trans hsaved)
    subst hslots
    obtain ⟨stack, hstack, ⟨-, rfl⟩ | ⟨hne, -⟩⟩ := Turn.advance_cases hturn
    · exact ⟨rfl, rfl⟩
    · exact absurd (Except.ok.inj (hstack.symm.trans hframes)) hne

/-- The arguments that advance with one slot and save. -/
def advanceWith (slot : String) : List String :=
  ["advance", "--flows", "flows.json", "--state", "state.json", "--slot", slot, "--commit"]

theorem ofArguments?_advanceWith {slot : String} (h : isOption slot = false) :
    ofArguments? (advanceWith slot) = (slot? slot).map fun given =>
      .run (.advance "flows.json" "domain.toml" "state.json" [given] true "executor.toml") := by
  have hflows : splitOption? "--flows" = some ("flows", none) := by decide +kernel
  have hflowsPath : isOption "flows.json" = false := by decide +kernel
  have hstate : splitOption? "--state" = some ("state", none) := by decide +kernel
  have hstatePath : isOption "state.json" = false := by decide +kernel
  have hslot : splitOption? "--slot" = some ("slot", none) := by decide +kernel
  have hcommit : splitOption? "--commit" = some ("commit", none) := by decide +kernel
  have hgiven : readOptions? advanceOptions [] (advanceWith slot).tail =
      some [("flows", some "flows.json"), ("state", some "state.json"), ("slot", some slot),
        ("commit", none)] := by
    simp [advanceWith, advanceOptions, readOptions?, mayGive, hflows, hflowsPath, hstate,
      hstatePath, hslot, h, hcommit]
  have hadvance : ofArguments? (advanceWith slot) =
      (advance? (advanceWith slot).tail).map .run :=
    ofCommand?_of_readOptions? (by decide) (by decide) hgiven
  simp only [hadvance, advance?, hgiven]
  cases hread : slot? slot with
  | none => simp [slots?, hread, path?, pathOr?, valueOf?, List.lookup_cons]
  | some given => simp [slots?, hread, path?, pathOr?, valueOf?, List.lookup_cons]

/-- A directory that holds a catalog without flows. -/
def withoutFlows : Tree := [(["flows.json".toList], .text "\x7b\"flows\":[]\x7d")]

/-- The second of two commands reads what the first has saved, and its own file is read again. -/
theorem two_slots_read_back :
    let calls := [advanceWith "size=large"]
    let arguments := advanceWith "seats=2"
    let ran := runAll executor (calls ++ [arguments]) withoutFlows
    (∀ report ∈ ran.1, report.status = .success) ∧
      savedOf "state.json" "guest" (ran.2.read "state.json") =
        .ok ⟨"default", [.slotSet "size" (.str "large"), .slotSet "seats" (.int 2)]⟩ := by
  intro calls arguments ran
  have hcommand : ofArguments? arguments = some (.run (.advance "flows.json" "domain.toml"
      "state.json" [("seats", .int 2)] true "executor.toml")) := by
    rw [ofArguments?_advanceWith (by decide +kernel),
      show slot? "seats=2" = some ("seats", .int 2) by decide +kernel, Option.map_some]
  have hsuccess : ∀ report ∈ ran.1, report.status = .success := by decide +kernel
  obtain ⟨path, conversation, hsaves, -, hback, hshallow⟩ :=
    session_reads_back hcommand rfl hsuccess
  have hfirst : savedOf "state.json" defaultSender
      ((runAll executor calls withoutFlows).2.read "state.json") =
        .ok ⟨"default", [.slotSet "size" (.str "large")]⟩ := by decide +kernel
  have hdomain : domainOf "domain.toml"
      ((runAll executor calls withoutFlows).2.read "domain.toml") = .ok .empty := by decide +kernel
  obtain ⟨rfl, rfl⟩ := hsaves.without_frames hfirst hdomain (by decide +kernel)
  refine ⟨hsuccess, (hback ?_ "guest").trans (if_pos (hshallow ?_))⟩
  · have hnumber : Json.RoundTrips (.int 2) := ⟨⟨false, ['2'], [], none⟩, rfl, rfl⟩
    exact List.forall_mem_cons.mpr ⟨trivial, List.forall_mem_singleton.mpr hnumber⟩
  · decide +kernel

/-- Empty lists inside each other. -/
def nested : Nat → Json
  | 0 => .arr []
  | n + 1 => .arr [nested n]

/-- A number of opening brackets, and as many closing ones. -/
def brackets (n : Nat) : List Char := List.replicate n '[' ++ List.replicate n ']'

theorem normal_nested (n : Nat) : (nested n).normal = nested n := by
  induction n with
  | zero => rfl
  | succ n ih => simp [nested, Json.normal, Json.normalItems, ih]

theorem depth_nested (n : Nat) : (nested n).depth = n + 1 := by
  induction n with
  | zero => rfl
  | succ n ih => simp [nested, Json.depth, Json.itemsDepth, ih]

theorem numbersRoundTrip_nested (n : Nat) : (nested n).NumbersRoundTrip := by
  induction n with
  | zero => exact trivial
  | succ n ih => exact ⟨ih, trivial⟩

theorem slot?_ofList {value : List Char} {held : Json}
    (h : Json.readValue? (Json.readingFuel value) Json.depthLimit value = some (held, [])) :
    slot? (String.ofList ('x' :: '=' :: value)) = some ("x", held.normal) := by
  have hparse : Json.parse? (String.ofList value) = some held.normal := by
    rw [Json.parse?, Json.parseRaw?, String.toList_ofList, h]
    rfl
  have hname : Text.trim (String.ofList ['x']) = "x" := by decide +kernel
  simp [slot?, String.toList_ofList, hname, hparse]

/-- A slot can be read from the arguments and yet be too deep for the state file: the command
succeeds, and no later command reads the file that it leaves. -/
theorem nested_slot_unreadable :
    let slot := String.ofList ('x' :: '=' :: brackets 125)
    let ran := runAll executor [advanceWith slot] withoutFlows
    (∀ report ∈ ran.1, report.status = .success) ∧
      savedOf "state.json" defaultSender (ran.2.read "state.json") =
        .error (.malformed "state.json") := by
  intro slot ran
  let command : Command :=
    .advance "flows.json" "domain.toml" "state.json" [("x", nested 124)] true "executor.toml"
  have hcommand : ofArguments? (advanceWith slot) = some (.run command) := by
    have hslot : slot? slot = some ("x", nested 124) := by
      rw [← normal_nested 124]
      exact slot?_ofList (by decide +kernel)
    have hvalue : isOption slot = false := by
      rw [isOption, String.toList_ofList]
      rfl
    rw [ofArguments?_advanceWith hvalue, hslot, Option.map_some]
  have hran : ran = ([(command.run executor.services Tree.access withoutFlows).1],
      (command.run executor.services Tree.access withoutFlows).2) := by
    show runAll executor [advanceWith slot] withoutFlows = _
    rw [runAll_singleton, executor.run_of_run hcommand]
  have hstatus : (command.run executor.services Tree.access withoutFlows).1.status = .success := by
    decide +kernel
  obtain ⟨path, conversation, hsaves, hsave⟩ := run_saves rfl hstatus
  have hread := save_ok hsave
  have hback := (hsaves.reads_back (normal_offered hcommand withoutFlows)).1
  have hfresh : savedOf "state.json" defaultSender (withoutFlows.read "state.json") =
      .ok (.fresh defaultSender) := by decide +kernel
  have hdomain : domainOf "domain.toml" (withoutFlows.read "domain.toml") = .ok .empty := by
    decide +kernel
  obtain ⟨rfl, rfl⟩ := hsaves.without_frames hfresh hdomain (by decide +kernel)
  rw [hran, hread, hback, if_neg]
  · exact ⟨List.forall_mem_singleton.mpr hstatus, rfl⟩
  · intro hshallow
    have hdepth := hshallow (nested 124) (List.mem_singleton_self _)
    rw [depth_nested] at hdepth
    exact absurd hdepth (by decide)
  · exact List.forall_mem_singleton.mpr (numbersRoundTrip_nested 124)

end DialogueFlow.Command
