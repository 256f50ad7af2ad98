/-
  The program: runs the command that its arguments ask for on the files of the machine, prints what
  the command prints, and exits with the number of its status.
-/
import DialogueFlow.Command.Arguments

namespace DialogueFlow

/-- Whether an action runs to its end. -/
def succeeds (action : IO Unit) : IO Bool := do
  try
    action
    return true
  catch _ => return false

/-- The files of the machine. -/
def machineFiles : Files.Access IO where
  read := fun path => do
    try
      return .text (← IO.FS.readFile path)
    catch
      | .noFileOrDirectory .. => return .missing
      -- on the way to the path there is a file instead of a directory
      | .inappropriateType (some _) .. => return .missing
      | _ => return .unreadable
  makeDirectories := fun path => succeeds (IO.FS.createDirAll path)
  write := fun path text => succeeds (IO.FS.writeFile path text)
  replace := fun source target => succeeds (IO.FS.rename source target)

end DialogueFlow

def main (arguments : List String) : IO UInt32 := do
  let report ← DialogueFlow.Command.runArguments DialogueFlow.machineFiles arguments
  IO.print report.output
  match report.complaint with
  | some text => IO.eprintln text
  | none => pure ()
  return report.status.code.toUInt32
