/-
  What a command does with files: it reads a file, makes directories, writes a file, and moves a
  file over another.
-/

namespace DialogueFlow.Files

/-- What reading a path finds. -/
inductive Reading where
  /-- There is nothing at the path. -/
  | missing
  /-- A directory, or bytes that are no text. -/
  | unreadable
  | text (text : String)
  deriving DecidableEq, Repr

/-- A way to reach files; the truth values tell whether a change succeeded. -/
structure Access (m : Type → Type) where
  read : (path : String) → m Reading
  /-- Makes a directory and those that it is in, unless they are there. -/
  makeDirectories : (path : String) → m Bool
  write : (path text : String) → m Bool
  /-- Moves a file to another path, over the file that is there. -/
  replace : (source target : String) → m Bool

end DialogueFlow.Files
