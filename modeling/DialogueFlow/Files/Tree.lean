/-
  A tree of files and directories as a value. A place is the list of names on the way from the root,
  which is always a directory; a path is followed segment by segment.
-/
import DialogueFlow.Files.Path
import DialogueFlow.Files.Access

namespace DialogueFlow.Files

/-- What a place holds. -/
inductive Entry where
  | directory
  | text (text : String)
  /-- A file of bytes that are no text. -/
  | bytes
  deriving DecidableEq, Repr

/-- The places that hold something. -/
abbrev Tree := List (List (List Char) × Entry)

namespace Tree

/-- What a place other than the root holds. -/
def heldAt? : Tree → List (List Char) → Option Entry
  | [], _ => none
  | (name, held) :: rest, place => if name = place then some held else heldAt? rest place

/-- What a place holds. -/
def entryAt? (tree : Tree) (place : List (List Char)) : Option Entry :=
  if place = [] then some .directory else tree.heldAt? place

/-- Changes what a place holds. -/
def put (tree : Tree) (place : List (List Char)) (held : Entry) : Tree :=
  (place, held) :: List.filter (·.1 ≠ place) tree

/-- Removes what a place holds. -/
def clear (tree : Tree) (place : List (List Char)) : Tree := List.filter (·.1 ≠ place) tree

/-- The place one segment further; only a directory leads on. -/
def step? (tree : Tree) (place : List (List Char)) (segment : List Char) :
    Option (List (List Char)) :=
  if tree.entryAt? place ≠ some .directory then none
  else if isIdle segment then some place
  else if segment = ['.', '.'] then some place.dropLast
  else some (place ++ [segment])

/-- The place of a path; it need not hold anything. -/
def place? (tree : Tree) (path : String) : Option (List (List Char)) :=
  (segments path).foldlM tree.step? []

/-- What reading a path finds. -/
def read (tree : Tree) (path : String) : Reading :=
  match (tree.place? path).bind tree.entryAt? with
  | none => .missing
  | some (.text text) => .text text
  | some _ => .unreadable

/-- Follows segments, making the directories that are missing. -/
def makeAlong : Tree → (place : List (List Char)) → List (List Char) → Tree × Bool
  | tree, _, [] => (tree, true)
  | tree, place, segment :: rest =>
    match tree.step? place segment with
    | none => (tree, false)
    | some place =>
      match tree.entryAt? place with
      | none => makeAlong (tree.put place .directory) place rest
      | some .directory => makeAlong tree place rest
      | some _ => (tree, false)

/-- Makes the directories of a path. -/
def makeDirectories (tree : Tree) (path : String) : Tree × Bool :=
  tree.makeAlong [] (segments path)

/-- Writes a file. -/
def write (tree : Tree) (path text : String) : Tree × Bool :=
  match tree.place? path with
  | none => (tree, false)
  | some place =>
    if tree.entryAt? place = some .directory then (tree, false)
    else (tree.put place (.text text), true)

/-- Moves a file over another. -/
def replace (tree : Tree) (source target : String) : Tree × Bool :=
  match tree.place? source, tree.place? target with
  | some from?, some to? =>
    match tree.entryAt? from? with
    | none => (tree, false)
    | some held =>
      if tree.entryAt? to? = some .directory then (tree, false)
      else ((tree.clear from?).put to? held, true)
  | _, _ => (tree, false)

/-- Commands that work on a tree. -/
def access : Access (StateM Tree) where
  read := fun path tree => (tree.read path, tree)
  makeDirectories := fun path tree =>
    let (tree, made) := tree.makeDirectories path
    (made, tree)
  write := fun path text tree =>
    let (tree, written) := tree.write path text
    (written, tree)
  replace := fun source target tree =>
    let (tree, replaced) := tree.replace source target
    (replaced, tree)

theorem heldAt?_filter {place wanted : List (List Char)} (h : wanted ≠ place) (tree : Tree) :
    heldAt? (List.filter (·.1 ≠ place) tree) wanted = heldAt? tree wanted := by
  induction tree with
  | nil => rfl
  | cons entry rest ih =>
    obtain ⟨name, held⟩ := entry
    by_cases hname : name = place
    · subst hname
      simpa [heldAt?, Ne.symm h] using ih
    · by_cases hwant : name = wanted
      · simp [heldAt?, hwant, h]
      · simpa [heldAt?, hname, hwant] using ih

/-- Changing a place changes nothing else. -/
theorem entryAt?_put (tree : Tree) {place : List (List Char)} (h : place ≠ []) (held : Entry)
    (wanted : List (List Char)) :
    (tree.put place held).entryAt? wanted =
      if wanted = place then some held else tree.entryAt? wanted := by
  by_cases heq : wanted = place
  · subst heq
    simp [entryAt?, put, heldAt?, h]
  · have hne : ¬place = wanted := fun e => heq e.symm
    have hfilter := heldAt?_filter heq tree
    by_cases hw : wanted = []
    · simp [entryAt?, hw, Ne.symm h]
    · simp only [entryAt?, put, heldAt?, hw, heq, hne, if_false]
      exact hfilter

end Tree

end DialogueFlow.Files
