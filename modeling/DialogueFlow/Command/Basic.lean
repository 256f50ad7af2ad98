/-
  The commands of the executor. `validate` checks a catalog, `start` puts a flow on the stack of a
  saved conversation, and `advance` runs one turn and prints its prediction; only `start` and a
  committing `advance` write, and only when all else has succeeded. A file is written next to its
  path first and then moved there. The services of the turn are those that the command is given.
-/
import DialogueFlow.Command.Input
import DialogueFlow.Files.Path
import DialogueFlow.Turn

namespace DialogueFlow

inductive Command where
  | validate (flows : String)
  /-- The flow must be in the catalog, if there is one. -/
  | start (state flowId : String) (flows : Option String) (kind : FrameKind) (domain : String)
  | advance (flows domain state : String) (slots : List (String × Json)) (commit : Bool)
      (config : String)
  deriving DecidableEq, Repr

namespace Command

open Files (Access)

/-- What a command leaves its caller with. -/
structure Report where
  status : Status
  /-- What the command prints. -/
  output : String
  /-- What the command says about its failure. -/
  complaint : Option String
  deriving DecidableEq, Repr

namespace Report

/-- A command that succeeded. -/
def succeeded (output : String) : Report := ⟨.success, output, none⟩

/-- A command that failed, perhaps after it printed something. -/
def failed (output : String) (failure : Failure) : Report :=
  ⟨failure.status, output, some failure.message⟩

/-- The report on a result. -/
def ofExcept (output : String) : Except Failure Unit → Report
  | .ok () => succeeded output
  | .error failure => failed output failure

end Report

/-- The sender of a new conversation. -/
def defaultSender : String := "default"

/-- The extension of the file that is written first. -/
def temporaryExtension : String := "json.tmp"

variable {m : Type → Type} [Monad m]

/-- Goes on unless a change of files failed. -/
def ensure (changed : m Bool) (failure : Failure) : ExceptT Failure m Unit := do
  if ← changed then return () else throw failure

/-- Writes a conversation to a file. -/
def save (files : Access m) (path : String) (conversation : Conversation) :
    ExceptT Failure m Unit := do
  let directory := Files.parent path
  if directory ≠ "" then
    ensure (files.makeDirectories directory) (.cannotMakeDirectory directory)
  let temporary := Files.withExtension path temporaryExtension
  ensure (files.write temporary (SavedConversation.ofConversation conversation).text)
    (.cannotWrite temporary)
  ensure (files.replace temporary path) (.cannotReplace path)

/-- Reads a file and makes something of it. -/
def load {α : Type} (files : Access m) (path : String)
    (make : String → Files.Reading → Except Failure α) : ExceptT Failure m α := do
  let reading ← files.read path
  ExceptT.mk (pure (make path reading))

/-- Reads a conversation over a domain. -/
def loadConversation (files : Access m) (path : String) (domain : Domain) :
    ExceptT Failure m Conversation := do
  let saved ← load files path (savedOf · defaultSender)
  return saved.toConversation domain

/-- Checks that a flow is in a catalog. -/
def checkFlow (files : Access m) (flowId path : String) : ExceptT Failure m Unit := do
  let catalog ← load files path catalogOf
  match (Pattern.addTo catalog).flow? flowId with
  | some _ => return ()
  | none => throw (.unknownFlow flowId path)

/-- The event that puts a flow on the stack of a conversation. -/
def startEvent (conversation : Conversation) (flowId : String) (kind : FrameKind) :
    Except Failure Event :=
  match Stack.ofConversation conversation with
  | .error cause => .error (.flow (.unreadableStack cause))
  | .ok stack => .ok (stack.push (.atStart flowId kind)).persist

/-- Puts a flow on the stack of a saved conversation. -/
def runStart (files : Access m) (state flowId : String) (flows : Option String) (kind : FrameKind)
    (domain : String) : ExceptT Failure m Unit := do
  match flows with
  | some path => checkFlow files flowId path
  | none => pure ()
  let domain ← load files domain domainOf
  let conversation ← loadConversation files state domain
  let event ← ExceptT.mk (pure (startEvent conversation flowId kind))
  save files state (conversation.record event)

/-- Runs one turn; also the conversation that it started from. -/
def predict (services : Services) (files : Access m) (flows domain state : String)
    (slots : List (String × Json)) (config : String) :
    ExceptT Failure m (Conversation × Prediction) := do
  let settings ← load files config settingsOf
  let catalog ← load files flows catalogOf
  let domain ← load files domain domainOf
  let conversation ← loadConversation files state domain
  let conversation := conversation.recordAll (slots.map fun slot => .slotSet slot.1 slot.2)
  let (result, _) := Turn.advance conversation domain (settings.catalog catalog) services
    settings.ceiling []
  match result with
  | .error cause => throw (.flow cause)
  | .ok prediction => return (conversation, prediction)

/-- The text of a prediction. -/
def predictionText (prediction : Prediction) : String := prediction.toJson.pretty ++ "\n"

/-- Runs a command. -/
def run (services : Services) (files : Access m) : Command → m Report
  | .validate flows => do
    match ← (load files flows catalogOf).run with
    | .ok catalog => return .succeeded s!"{catalog.length} flows valid\n"
    | .error failure => return .failed "" failure
  | .start state flowId flows kind domain => do
    return .ofExcept "" (← (runStart files state flowId flows kind domain).run)
  | .advance flows domain state slots commit config => do
    match ← (predict services files flows domain state slots config).run with
    | .error failure => return .failed "" failure
    | .ok (conversation, prediction) =>
      let output := predictionText prediction
      if commit then
        let conversation := conversation.recordAll prediction.committed
        return .ofExcept output (← (save files state conversation).run)
      else return .succeeded output

end Command

end DialogueFlow
