/-
  The files that commands read. Settings, domain and conversation may be missing and then have
  their defaults; a catalog may not.
-/
import DialogueFlow.Command.Failure
import DialogueFlow.Files.Access
import DialogueFlow.SavedConversation
import DialogueFlow.Settings
import DialogueFlow.Toml.Parser

namespace DialogueFlow.Command

open Files (Reading)

/-- What a TOML text decodes to. -/
def decodeToml? {α : Type} (decode : Decoder α) (text : String) : Option α :=
  match Toml.parse? text with
  | none => none
  | some value => (decode value).toOption

/-- What a file holds that may be missing. -/
def optionalInput {α : Type} (path : String) (default : α) (ofText? : String → Option α) :
    Reading → Except Failure α
  | .missing => .ok default
  | .unreadable => .error (.unreadable path)
  | .text text =>
    match ofText? text with
    | some value => .ok value
    | none => .error (.malformed path)

/-- The settings of a file; their ceiling is positive. -/
def settingsOf (path : String) (reading : Reading) : Except Failure Settings :=
  match optionalInput path .default (decodeToml? Settings.decode) reading with
  | .error e => .error e
  | .ok settings => if settings.ceiling = 0 then .error .zeroCeiling else .ok settings

/-- The domain of a file. -/
def domainOf (path : String) (reading : Reading) : Except Failure Domain :=
  optionalInput path .empty (decodeToml? (Domain.decode .ignored)) reading

/-- The conversation of a file; without a file it is one of `sender` before the first event. -/
def savedOf (path sender : String) (reading : Reading) : Except Failure SavedConversation :=
  optionalInput path (.fresh sender) SavedConversation.ofText? reading

/-- The catalog of a file. -/
def catalogOf (path : String) : Reading → Except Failure Catalog
  | .text text => (Catalog.load text).mapError (.badCatalog path)
  | _ => .error (.unreadableCatalog path)

end DialogueFlow.Command
