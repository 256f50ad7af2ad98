/-
  Merged catalogs. `flow?_merge`: a merged catalog has the first catalog's flow of an id, else the
  second's. `merge_assoc`: it does not matter which of three catalogs are merged first.
  `sound_merge`: merging sound catalogs gives a sound catalog, so a catalog stays sound when the
  built-in patterns are added, whichever of them it replaces.
-/
import DialogueFlow.Pattern
import DialogueFlow.Proofs.Catalog.Soundness

namespace DialogueFlow.Catalog

theorem flow?_append (first second : Catalog) (id : String) :
    Catalog.flow? (first ++ second) id = (first.flow? id).or (second.flow? id) :=
  List.find?_append

theorem flow?_singleton (flow : Flow) (id : String) :
    Catalog.flow? [flow] id = if flow.id = id then some flow else none := by
  by_cases h : flow.id = id <;> simp [flow?, h]

theorem add_eq (catalog : Catalog) (flow : Flow) :
    catalog.add flow = if (catalog.flow? flow.id).isSome then catalog else catalog ++ [flow] := by
  unfold add
  split <;> rename_i h <;> simp [h]

theorem flow?_add (catalog : Catalog) (flow : Flow) (id : String) :
    (catalog.add flow).flow? id = (catalog.flow? id).or (Catalog.flow? [flow] id) := by
  rw [add_eq, flow?_singleton]
  split
  · rename_i h
    by_cases hid : flow.id = id
    · subst hid
      obtain ⟨found, hfound⟩ := Option.isSome_iff_exists.mp h
      simp [hfound]
    · simp [hid]
  · rw [flow?_append, flow?_singleton]

theorem merge_cons (catalog : Catalog) (flow : Flow) (rest : Catalog) :
    catalog.merge (flow :: rest) = (catalog.add flow).merge rest := rfl

/-- A merged catalog has the first catalog's flow of an id, else the second's. -/
theorem flow?_merge (first second : Catalog) (id : String) :
    (first.merge second).flow? id = (first.flow? id).or (second.flow? id) := by
  induction second generalizing first with
  | nil => simp [merge, flow?]
  | cons flow rest ih =>
    rw [merge_cons, ih, flow?_add, Option.or_assoc, ← flow?_append, List.singleton_append]

theorem merge_append (catalog first second : Catalog) :
    catalog.merge (first ++ second) = (catalog.merge first).merge second := List.foldl_append

/-- Flows of ids that the catalog has add nothing to it. -/
theorem merge_of_known {first second : Catalog}
    (h : ∀ flow ∈ second, (first.flow? flow.id).isSome) : first.merge second = first := by
  induction second with
  | nil => rfl
  | cons flow rest ih =>
    obtain ⟨hflow, hrest⟩ := List.forall_mem_cons.mp h
    rw [merge_cons, add_eq, if_pos hflow, ih hrest]

theorem merge_add (first second : Catalog) (flow : Flow) :
    first.merge (second.add flow) = (first.merge second).add flow := by
  rw [add_eq second]
  split
  · rename_i hknown
    rw [add_eq, flow?_merge, Option.isSome_or, hknown, Bool.or_true, if_pos rfl]
  · exact merge_append first second [flow]

/-- Of three catalogs either two neighbours may be merged first. -/
theorem merge_assoc (first second third : Catalog) :
    (first.merge second).merge third = first.merge (second.merge third) := by
  induction third generalizing second with
  | nil => rfl
  | cons flow rest ih => rw [merge_cons, merge_cons, ← ih (second.add flow), merge_add]

theorem mem_add {catalog : Catalog} {added flow : Flow} (h : flow ∈ catalog.add added) :
    flow ∈ catalog ∨ flow = added := by
  rw [add_eq] at h
  split at h
  · exact Or.inl h
  · simpa using h

theorem mem_merge {first second : Catalog} {flow : Flow} (h : flow ∈ first.merge second) :
    flow ∈ first ∨ flow ∈ second := by
  induction second generalizing first with
  | nil => exact Or.inl h
  | cons added rest ih =>
    rw [merge_cons] at h
    rcases ih h with h | h
    · rcases mem_add h with h | rfl
      · exact Or.inl h
      · exact Or.inr List.mem_cons_self
    · exact Or.inr (List.mem_cons_of_mem _ h)

theorem distinct_add {catalog : Catalog} (h : (catalog.map (·.id)).Nodup) (flow : Flow) :
    ((catalog.add flow).map (·.id)).Nodup := by
  rw [add_eq]
  split
  · exact h
  · rename_i hnew
    rw [flow?_isSome_iff] at hnew
    rw [List.map_append, List.nodup_append]
    refine ⟨h, by simp, ?_⟩
    rintro id hid _ hflow rfl
    obtain ⟨other, hother, rfl⟩ := List.mem_map.mp hid
    exact hnew ⟨other, hother, by simpa using hflow⟩

theorem distinct_merge {first : Catalog} (h : (first.map (·.id)).Nodup) (second : Catalog) :
    ((first.merge second).map (·.id)).Nodup := by
  induction second generalizing first with
  | nil => exact h
  | cons flow rest ih => exact ih (distinct_add h flow)

theorem linksInto_mono {flow : Flow} {catalog larger : Catalog}
    (h : ∀ id, (catalog.flow? id).isSome → (larger.flow? id).isSome)
    (hinto : flow.LinksInto catalog) : flow.LinksInto larger :=
  fun step hstep id htask => h id (hinto step hstep id htask)

/-- Merging sound catalogs gives a sound catalog. -/
theorem sound_merge {first second : Catalog} (hfirst : first.Sound) (hsecond : second.Sound) :
    (first.merge second).Sound where
  distinct := distinct_merge hfirst.distinct second
  flows := fun flow hflow => (mem_merge hflow).elim (hfirst.flows flow) (hsecond.flows flow)
  linked := by
    intro flow hflow
    rcases mem_merge hflow with h | h
    · refine linksInto_mono (fun id hid => ?_) (hfirst.linked flow h)
      rw [flow?_merge, Option.isSome_or, hid, Bool.true_or]
    · refine linksInto_mono (fun id hid => ?_) (hsecond.linked flow h)
      rw [flow?_merge, Option.isSome_or, hid, Bool.or_true]

end DialogueFlow.Catalog

namespace DialogueFlow.Pattern

theorem collectFlow_mem : collectFlow ∈ flows := by simp [flows]

theorem continueFlow_mem : continueFlow ∈ flows := by simp [flows]

theorem completedFlow_mem : completedFlow ∈ flows := by simp [flows]

theorem sound_flows : Catalog.Sound flows := (Catalog.defects_eq_nil_iff flows).mp (by decide)

/-- A sound catalog stays sound when the built-in flows are added. -/
theorem sound_addTo {catalog : Catalog} (h : catalog.Sound) : (addTo catalog).Sound :=
  Catalog.sound_merge h sound_flows

theorem flow?_addTo (catalog : Catalog) (id : String) :
    (addTo catalog).flow? id = (catalog.flow? id).or (flows.flow? id) :=
  Catalog.flow?_merge catalog flows id

/-- Each built-in flow's id is known, be the flow replaced. -/
theorem isSome_flow?_addTo (catalog : Catalog) {flow : Flow} (hflow : flow ∈ flows) :
    ((addTo catalog).flow? flow.id).isSome := by
  have hknown : (Catalog.flow? flows flow.id).isSome :=
    Catalog.flow?_isSome_iff.mpr ⟨flow, hflow, rfl⟩
  rw [flow?_addTo, Option.isSome_or, hknown, Bool.or_true]

/-- A built-in flow that is not replaced is found. -/
theorem flow?_addTo_of_mem {catalog : Catalog} {flow : Flow} (hflow : flow ∈ flows)
    (h : catalog.flow? flow.id = none) : (addTo catalog).flow? flow.id = some flow := by
  have hflows : ∀ flow ∈ flows, Catalog.flow? flows flow.id = some flow := by decide
  rw [flow?_addTo, h, Option.none_or, hflows flow hflow]

/-- The built-in flows are added once. -/
theorem addTo_addTo (catalog : Catalog) : addTo (addTo catalog) = addTo catalog :=
  Catalog.merge_of_known fun _ hflow => isSome_flow?_addTo catalog hflow

end DialogueFlow.Pattern
