/-
  Loaded catalogs. A catalog that was loaded is sound (`sound_of_load`), and in each of its flows
  only link steps are without links (`fallsThrough_of_load`), because decoding a flow fills in the
  links of its steps.
-/
import DialogueFlow.Flow.Loading
import DialogueFlow.Proofs.Catalog.Soundness
import DialogueFlow.Proofs.Decode.Parts

namespace DialogueFlow

/-! ## Flows whose links are filled in -/

/-- Only link steps of the flow are without links. -/
def Flow.FallsThrough (flow : Flow) : Prop :=
  ∀ step ∈ flow.declared, step.next = [] → ∃ id, step.task = .link id

namespace Flow

theorem next_linked {step : Step} {following : String} (h : (linked step following).next = []) :
    ∃ id, (linked step following).task = .link id := by
  unfold linked at h ⊢
  split
  · rename_i id _ htask
    exact ⟨id, htask⟩
  · rename_i hnext hother
    simp [hnext] at h
  · rename_i hother _
    split at h <;> simp_all

/-- A step whose links are filled in is a declared one, linked to what follows it. -/
theorem linked_of_mem_fallThrough {steps : List Step} {step : Step} (h : step ∈ fallThrough steps) :
    ∃ declared ∈ steps, ∃ following, step = linked declared following := by
  induction steps using fallThrough.induct with
  | case1 => cases h
  | case2 only => exact ⟨only, List.mem_singleton_self _, _, List.mem_singleton.mp h⟩
  | case3 head following rest ih =>
    rw [fallThrough, List.mem_cons] at h
    rcases h with rfl | h
    · exact ⟨head, List.mem_cons_self, _, rfl⟩
    · obtain ⟨declared, hdeclared, next, hstep⟩ := ih h
      exact ⟨declared, List.mem_cons_of_mem _ hdeclared, next, hstep⟩

theorem fallsThrough_ofDeclared (id : String) (name : Option String) (steps : List Step) :
    (ofDeclared id name steps).FallsThrough := by
  intro step hstep
  obtain ⟨declared, -, following, rfl⟩ := linked_of_mem_fallThrough hstep
  exact next_linked

/-- Filling in links keeps the tasks. -/
theorem forall_tasks_ofDeclared {P : Task → Prop} {steps : List Step}
    (h : ∀ step ∈ steps, P step.task) (id : String) (name : Option String) :
    ∀ step ∈ (ofDeclared id name steps).declared, P step.task := by
  intro step hstep
  obtain ⟨declared, hdeclared, following, rfl⟩ := linked_of_mem_fallThrough hstep
  rw [linked_task]
  exact h declared hdeclared

/-! ## Reading flows -/

/-- Setting a field of a definition keeps the steps, or reads them from the value. -/
theorem steps_of_set {definition definition' : Definition} {name : String} {value : Json}
    (h : form.set definition name value = .ok definition') :
    definition'.steps = definition.steps ∨
      Decode.list Step.decode value = .ok definition'.steps := by
  dsimp only [form] at h
  split at h
  · obtain ⟨_, -, rfl⟩ := Decode.ok_of_map h
    exact Or.inl rfl
  · split at h
    · obtain ⟨_, -, rfl⟩ := Decode.ok_of_map h
      exact Or.inl rfl
    · obtain ⟨_, hsteps, rfl⟩ := Decode.ok_of_map h
      exact Or.inr hsteps

/-- Reading a flow is reading its definition and filling in the links. -/
theorem definition_of_decode {value : Json} {flow : Flow} (h : decode value = .ok flow) :
    ∃ definition, form.decode .refused value = .ok definition ∧
      flow = ofDeclared definition.id definition.name definition.steps := by
  obtain ⟨definition, hdefinition, rfl⟩ := Decode.ok_of_map h
  exact ⟨definition, hdefinition, rfl⟩

theorem fallsThrough_of_decode {value : Json} {flow : Flow} (h : decode value = .ok flow) :
    flow.FallsThrough := by
  obtain ⟨definition, -, rfl⟩ := definition_of_decode h
  exact fallsThrough_ofDeclared _ _ _

end Flow

namespace Catalog

theorem fallsThrough_of_decode {value : Json} {catalog : Catalog}
    (h : decode value = .ok catalog) : ∀ flow ∈ catalog, flow.FallsThrough := by
  refine Decode.RecordForm.decode_invariant (Q := fun catalog : Catalog =>
    ∀ flow ∈ catalog, flow.FallsThrough) ?_ ?_ h
  · intro _ _ value decoded _ hset flow hflow
    obtain ⟨item, -, hitem⟩ := Decode.mem_list hset hflow
    exact Flow.fallsThrough_of_decode hitem
  · intro flow hflow
    cases hflow

variable {text : String} {catalog : Catalog}

/-- What loading a catalog checks. -/
theorem of_load (h : load text = .ok catalog) : ∃ value,
    Json.parse? text = some value ∧ decode value = .ok catalog ∧ catalog.defects = [] := by
  unfold load at h
  split at h
  · cases h
  · rename_i value hparse
    unfold ofJson at h
    split at h
    · cases h
    · split at h
      · cases h
      · rename_i decoded hdecode
        split at h
        · rename_i hdefects
          cases h
          exact ⟨value, hparse, hdecode, hdefects⟩
        · cases h

/-- A loaded catalog is sound. -/
theorem sound_of_load (h : load text = .ok catalog) : catalog.Sound := by
  obtain ⟨_, -, -, hdefects⟩ := of_load h
  exact (defects_eq_nil_iff catalog).mp hdefects

/-- In the flows of a loaded catalog only link steps are without links. -/
theorem fallsThrough_of_load (h : load text = .ok catalog) :
    ∀ flow ∈ catalog, flow.FallsThrough := by
  obtain ⟨_, -, hdecode, -⟩ := of_load h
  exact fallsThrough_of_decode hdecode

/-! ## A catalog of two flows -/

/-- The text of a catalog whose first flow asks for a slot and links to the second. -/
def orderText : String :=
  "\x7b\"flows\":[\x7b\"id\":\"order\",\"steps\":[\x7b\"id\":\"size\",\"type\":\"collect\"," ++
  "\"collect\":\"size\"\x7d,\x7b\"id\":\"to_pay\",\"type\":\"link\",\"link\":\"pay\"\x7d]\x7d," ++
  "\x7b\"id\":\"pay\",\"steps\":[\x7b\"id\":\"thank\",\"type\":\"action\"," ++
  "\"action\":\"utter_thanks\"\x7d]\x7d]\x7d"

/-- The catalog of that text. -/
def order : Catalog :=
  [.ofDeclared "order" none
      [⟨"size", .collect "size" none [] false true, []⟩, ⟨"to_pay", .link "pay", []⟩],
    .ofDeclared "pay" none [⟨"thank", .action (some "utter_thanks"), []⟩]]

/-- The value of that text. -/
def orderValue : Json :=
  .obj [("flows", .arr
    [.obj [("id", .str "order"), ("steps", .arr
        [.obj [("collect", .str "size"), ("id", .str "size"), ("type", .str "collect")],
          .obj [("id", .str "to_pay"), ("link", .str "pay"), ("type", .str "link")]])],
      .obj [("id", .str "pay"), ("steps", .arr
        [.obj [("action", .str "utter_thanks"), ("id", .str "thank"),
          ("type", .str "action")]])]])]

theorem parse_order : Json.parse? orderText = some orderValue := by
  have hchars : orderText.toList = _ :=
    Json.toList_append (Json.toList_append (Json.toList_append String.toList_ofList
      String.toList_ofList) String.toList_ofList) String.toList_ofList
  rw [Json.parse?_of_toList hchars]
  decide +kernel

theorem load_order : load orderText = .ok order := by
  rw [load, parse_order]
  decide +kernel

end Catalog

end DialogueFlow
