/-
  The values that a catalog's steps set slots to. In the text of a catalog they lie seven levels
  deep, so in a loaded catalog they are nested that much less than the reader allows
  (`sets_of_load`). The built-in patterns set no slots.
-/
import DialogueFlow.Proofs.Catalog.Loading
import DialogueFlow.Proofs.Catalog.Merge

namespace DialogueFlow

open Decode (Gives)
open Json (Fits)

variable {P : Json → Prop} {n : Nat}

/-- Every value that the task sets a slot to has `P`. -/
def Task.Sets (P : Json → Prop) : Task → Prop
  | .setSlots assignments => ∀ assignment ∈ assignments, P assignment.value
  | _ => True

/-- Every value that a step of the flow sets a slot to has `P`. -/
def Flow.Sets (P : Json → Prop) (flow : Flow) : Prop := ∀ step ∈ flow.declared, step.task.Sets P

/-- Every value that a step of the catalog sets a slot to has `P`. -/
def Catalog.Sets (P : Json → Prop) (catalog : Catalog) : Prop := ∀ flow ∈ catalog, flow.Sets P

theorem Catalog.Sets.mono {catalog : Catalog} (h : catalog.Sets P) {Q : Json → Prop}
    (hPQ : ∀ value, P value → Q value) : catalog.Sets Q := by
  intro flow hflow step hstep
  have hsets := h flow hflow step hstep
  cases htask : step.task with
  | setSlots assignments =>
    rw [htask] at hsets
    exact fun assignment hassignment => hPQ _ (hsets assignment hassignment)
  | _ => trivial

/-! ## Decoding -/

theorem Assignment.gives (surplus : Decode.Surplus) :
    Gives (Fits n) (form.decode surplus) fun assignment => Fits n assignment.value := by
  refine Gives.record (Json.fits_null n) ?_ surplus
  intro assignment name value record hassignment hvalue hset
  dsimp only [form] at hset
  split at hset
  · obtain ⟨key, -, rfl⟩ := Decode.ok_of_map hset
    exact hassignment
  · cases hset
    exact hvalue

namespace Task

theorem gives_setSlots (surplus : Decode.Surplus) :
    Gives (Fits (n + 2)) (setSlotsForm.decode surplus) fun assignments =>
      ∀ assignment ∈ assignments, Fits n assignment.value := by
  refine Gives.record (fun _ h => nomatch h) ?_ surplus
  intro _ _ value assignments _ hvalue hset
  have hlist := Gives.list (P := Fits (n + 1)) (fun _ h _ => h.of_mem_parts)
    (Assignment.gives (n := n) .counted)
  exact hlist value assignments (fun _ => hvalue.of_mem_parts) hset

theorem gives_variant {title : String} {decode : Decoder Task} (h : (title, decode) ∈ variants) :
    Gives (Fits (n + 2)) decode (Sets (Fits n)) := by
  simp only [variants, List.mem_cons, Prod.mk.injEq, List.not_mem_nil, or_false] at h
  -- only the tasks that set slots have values
  rcases h with ⟨-, rfl⟩ | ⟨-, rfl⟩ | ⟨-, rfl⟩ | ⟨-, rfl⟩ | ⟨-, rfl⟩ | ⟨-, rfl⟩
  case inr.inr.inl => exact (gives_setSlots .counted).map fun _ h => h
  case inr.inr.inr.inl =>
    intro _ _ _ h
    cases h
    trivial
  all_goals
    intro _ _ _ h
    obtain ⟨_, -, rfl⟩ := Decode.ok_of_map h
    trivial

end Task

theorem Step.gives : Gives (Fits (n + 2)) decode fun step => step.task.Sets (Fits n) := by
  intro value step hparts h
  cases value with
  | obj fields =>
    rw [decode] at h
    split at h
    · cases h
    · split at h
      · cases h
      · rename_i htask
        cases h
        refine Decode.taggedFields_gives (P := Fits (n + 2)) (fun name decode hfound => ?_) ?_ htask
        · obtain ⟨title, hmem⟩ := Decode.Variants.mem_of_byNameOrIndex hfound
          exact Task.gives_variant hmem
        · intro field hfield
          exact hparts field.2 (List.mem_map_of_mem (List.mem_filter.mp hfield).1)
  | _ => cases h

theorem Flow.gives : Gives (Fits (n + 4)) decode (Sets (Fits n)) := by
  have hform : Gives (Fits (n + 4)) (form.decode .refused) fun definition =>
      ∀ step ∈ definition.steps, step.task.Sets (Fits n) := by
    refine Gives.record (fun _ h => nomatch h) ?_ .refused
    intro definition name value record hdefinition hvalue hset
    rcases steps_of_set hset with heq | hsteps
    · rw [heq]
      exact hdefinition
    · exact Gives.list (P := Fits (n + 3)) (fun _ h _ => h.of_mem_parts) Step.gives value _
        (fun _ => hvalue.of_mem_parts) hsteps
  exact hform.map fun definition h => forall_tasks_ofDeclared h definition.id definition.name

namespace Catalog

theorem gives : Gives (Fits (n + 6)) decode (Sets (Fits n)) := by
  refine Gives.record (fun _ h => nomatch h) ?_ .refused
  intro _ _ value catalog _ hvalue hset
  exact Gives.list (P := Fits (n + 5)) (fun _ h _ => h.of_mem_parts) Flow.gives value catalog
    (fun _ => hvalue.of_mem_parts) hset

/-- The values that a loaded catalog sets slots to are normal, and seven levels can lie around
them. -/
theorem sets_of_load {text : String} {catalog : Catalog} (h : load text = .ok catalog) :
    catalog.Sets (Fits (Json.depthLimit - 7)) := by
  obtain ⟨value, hparse, hdecode, -⟩ := of_load h
  have hvalue : Fits Json.depthLimit value :=
    ⟨Json.isNormal_of_parse? hparse, Json.depth_of_parse? hparse⟩
  exact gives value catalog (fun _ => hvalue.of_mem_parts) hdecode

end Catalog

theorem Pattern.sets_addTo {catalog : Catalog} (h : catalog.Sets P) : (addTo catalog).Sets P := by
  intro flow hflow
  rcases Catalog.mem_merge hflow with hflow | hflow
  · exact h flow hflow
  · simp only [flows, List.mem_cons, List.not_mem_nil, or_false] at hflow
    rcases hflow with rfl | rfl | rfl
    all_goals
      refine Flow.forall_tasks_ofDeclared (fun step hstep => ?_) _ _
      simp only [List.mem_cons, List.not_mem_nil, or_false] at hstep
    · rcases hstep with rfl | rfl | rfl <;> trivial
    · subst hstep
      trivial

end DialogueFlow
