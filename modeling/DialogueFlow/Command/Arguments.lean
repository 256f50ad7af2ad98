/-
  What the program does with its arguments: it tells its version, gives help, or runs a command. The
  services of its turns and the texts of its help may be any (`Program`); `executor` is the program
  with those that it comes with.
-/
import DialogueFlow.Command.Help
import DialogueFlow.Templated

namespace DialogueFlow.Command

/-- What a program is put together from beside its commands. -/
structure Program where
  services : Services
  helpText : Topic → String

/-- The name and the version of the program. -/
def versionText : String := "executor 0.1.0\n"

/-- The report on arguments that are no command. -/
def misused : Report := ⟨.usage, "", some "usage"⟩

variable {m : Type → Type} [Monad m]

/-- Does what the arguments ask for. -/
def Program.run (program : Program) (files : Files.Access m) (arguments : List String) : m Report :=
  match ofArguments? arguments with
  | none => return misused
  | some .version => return .succeeded versionText
  | some (.help topic) => return .succeeded (program.helpText topic)
  | some (.run command) => command.run program.services files

/-- The program with the services of templates. -/
def executor : Program := ⟨Templated.services, helpText⟩

/-- Does what the arguments of the program ask for. -/
def runArguments (files : Files.Access m) (arguments : List String) : m Report :=
  executor.run files arguments

end DialogueFlow.Command
