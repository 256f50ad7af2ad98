/-
  Writing a file beside its path and then moving it there. Neither changes which places are
  directories, so paths lead where they led before, and the path that was moved to holds the text
  (`read_replace`).
-/
import DialogueFlow.Files.Tree
import Mathlib.Tactic.Common

namespace DialogueFlow.Files.Tree

variable {tree tree' : Tree} {place : List (List Char)}

/-- The same places are directories. -/
def SameDirectories (tree tree' : Tree) : Prop :=
  ∀ place, tree.entryAt? place = some .directory ↔ tree'.entryAt? place = some .directory

/-- Paths lead to the same places as long as directories stay where they are. -/
theorem SameDirectories.place? (h : SameDirectories tree tree') (path : String) :
    tree.place? path = tree'.place? path := by
  have hstep : tree.step? = tree'.step? := by
    funext place segment
    unfold step?
    simp only [ne_eq, h place]
  rw [Tree.place?, Tree.place?, hstep]

theorem entryAt?_nil (tree : Tree) : tree.entryAt? [] = some .directory := if_pos rfl

theorem ne_nil_of_entryAt? (h : tree.entryAt? place ≠ some .directory) : place ≠ [] := by
  rintro rfl
  exact h (entryAt?_nil tree)

theorem sameDirectories_put (h : tree.entryAt? place ≠ some .directory) {held : Entry}
    (hheld : held ≠ .directory) : SameDirectories tree (tree.put place held) := by
  intro wanted
  rw [entryAt?_put tree (ne_nil_of_entryAt? h)]
  split
  · rename_i heq
    subst heq
    exact iff_of_false h fun heq => hheld (Option.some.inj heq)
  · exact Iff.rfl

theorem heldAt?_clear (tree : Tree) (place : List (List Char)) :
    (tree.clear place).heldAt? place = none := by
  unfold clear
  induction tree with
  | nil => rfl
  | cons entry rest ih =>
    obtain ⟨name, held⟩ := entry
    by_cases hname : name = place
    · rw [List.filter_cons_of_neg (by simpa using hname)]
      exact ih
    · rw [List.filter_cons_of_pos (by simpa using hname), heldAt?, if_neg hname]
      exact ih

theorem sameDirectories_clear (h : tree.entryAt? place ≠ some .directory) :
    SameDirectories tree (tree.clear place) := by
  intro wanted
  have hplace := ne_nil_of_entryAt? h
  by_cases heq : wanted = place
  · subst heq
    have hcleared : (tree.clear wanted).entryAt? wanted = none :=
      (if_neg hplace).trans (heldAt?_clear tree wanted)
    rw [hcleared]
    exact iff_of_false h nofun
  · rw [entryAt?, entryAt?, clear, heldAt?_filter heq]

/-- A file that was written is found where it was written. -/
theorem write_ok {path text : String} (h : tree.write path text = (tree', true)) :
    ∃ place, tree.place? path = some place ∧ tree.entryAt? place ≠ some .directory ∧
      tree' = tree.put place (.text text) := by
  unfold write at h
  split at h
  · cases h
  · rename_i place hplace
    split at h
    · cases h
    · rename_i hentry
      cases h
      exact ⟨place, hplace, hentry, rfl⟩

theorem replace_ok {source target : String} (h : tree.replace source target = (tree', true)) :
    ∃ from? to? held, tree.place? source = some from? ∧ tree.place? target = some to? ∧
      tree.entryAt? from? = some held ∧ tree.entryAt? to? ≠ some .directory ∧
      tree' = (tree.clear from?).put to? held := by
  unfold replace at h
  split at h
  · rename_i from? to? hfrom hto
    split at h
    · cases h
    · rename_i held hheld
      split at h
      · cases h
      · rename_i hentry
        cases h
        exact ⟨from?, to?, held, hfrom, hto, hheld, hentry, rfl⟩
  · cases h

/-- A text that was written to a path and moved to another is read there. -/
theorem read_replace {written replaced : Tree} {source target text : String}
    (hwrite : tree.write source text = (written, true))
    (hreplace : written.replace source target = (replaced, true)) :
    replaced.read target = .text text := by
  obtain ⟨place, hplace, hentry, rfl⟩ := write_ok hwrite
  obtain ⟨from?, to?, held, hfrom, hto, hheld, htarget, rfl⟩ := replace_ok hreplace
  have hnil := ne_nil_of_entryAt? hentry
  have hput : SameDirectories tree (tree.put place (.text text)) :=
    sameDirectories_put hentry nofun
  -- the source of the move is what was written
  rw [← hput.place? source, hplace] at hfrom
  obtain rfl := Option.some.inj hfrom
  rw [entryAt?_put tree hnil, if_pos rfl] at hheld
  obtain rfl := Option.some.inj hheld
  have hclear : SameDirectories (tree.put place (.text text))
      ((tree.put place (.text text)).clear place) := by
    refine sameDirectories_clear ?_
    rw [entryAt?_put tree hnil, if_pos rfl]
    exact nofun
  have hmoved := sameDirectories_put (fun h => htarget ((hclear to?).mpr h))
    (show Entry.text text ≠ .directory from nofun)
  have hread : Tree.place? (((tree.put place (.text text)).clear place).put to? (.text text))
      target = some to? := by
    rw [← hmoved.place? target, ← hclear.place? target, hto]
  rw [read, hread, Option.bind_some, entryAt?_put _ (ne_nil_of_entryAt? htarget), if_pos rfl]

end DialogueFlow.Files.Tree
