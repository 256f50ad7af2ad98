/-
  Saving and reloading flows. A loaded flow has its declared steps, with missing links filled in,
  between a start and an end (`loadsAs_ofDeclared`), and links are filled in once
  (`fallThrough_of_fallsThrough`). A step that was read is written so that it is read again, with its
  fields in declared or in ascending order (`Step.decode_of_fields`); only settings that are null
  could not be told from none, and those are never read. Main statement: `reloads_as_loaded`.
-/
import Mathlib.Data.String.Basic
import DialogueFlow.Proofs.Catalog.Loading
import DialogueFlow.Proofs.Json.Normal

namespace DialogueFlow

/-! ## Filling in links -/

/-- The declared step as it is loaded with `following` as the id of what comes after it. -/
structure Step.LoadsAs (declared : Step) (following : String) (loaded : Step) : Prop where
  id : loaded.id = declared.id
  task : loaded.task = declared.task
  kept : declared.next ≠ [] → loaded.next = declared.next
  linking : declared.next = [] → (∃ flow, declared.task = .link flow) → loaded.next = []
  falling : declared.next = [] → (¬ ∃ flow, declared.task = .link flow) →
    loaded.next = [.always following]

namespace Flow

/-- The id of the step after the one at a place, or the end. -/
def followingId (steps : List Step) (place : Nat) : String :=
  ((steps[place + 1]?).map (·.id)).getD endId

/-- The flow has the steps of the definition in order between a start, which leads to the first of
them, and an end. -/
structure Definition.LoadsAs (definition : Definition) (flow : Flow) : Prop where
  id : flow.id = definition.id
  name : flow.name = definition.name
  length : flow.nodes.length = definition.steps.length + 2
  start : flow.nodes.head? = some (.start (((definition.steps.head?).map (·.id)).getD endId))
  steps : ∀ place step, definition.steps[place]? = some step →
    ∃ loaded, flow.nodes[place + 1]? = some (.step loaded) ∧
      step.LoadsAs (followingId definition.steps place) loaded
  finish : flow.nodes.getLast? = some .finish

theorem loadsAs_linked (step : Step) (following : String) :
    step.LoadsAs following (linked step following) where
  id := linked_id step following
  task := linked_task step following
  kept := by
    intro hnext
    unfold linked
    split <;> simp_all
  linking := by
    rintro hnext ⟨flow, htask⟩
    unfold linked
    simp [hnext, htask]
  falling := by
    intro hnext htask
    unfold linked
    split <;> simp_all

theorem getElem?_fallThrough (steps : List Step) (place : Nat) :
    (fallThrough steps)[place]? =
      steps[place]?.map fun step => linked step (followingId steps place) := by
  induction steps using fallThrough.induct generalizing place with
  | case1 => rfl
  | case2 only => cases place <;> rfl
  | case3 head following rest ih =>
    rw [fallThrough]
    cases place with
    | zero => rfl
    | succ place => exact ih place

theorem firstId_ofDeclared (id : String) (name : Option String) (steps : List Step) :
    (ofDeclared id name steps).firstId = ((steps.head?).map (·.id)).getD endId := by
  have hids := congrArg List.head? (ids_fallThrough steps)
  rw [List.head?_map, List.head?_map] at hids
  unfold firstId ofDeclared
  rw [hids]

theorem loadsAs_ofDeclared (definition : Definition) :
    definition.LoadsAs (ofDeclared definition.id definition.name definition.steps) where
  id := rfl
  name := rfl
  length := by simp [nodes, ofDeclared, length_fallThrough]
  start := by rw [nodes, firstId_ofDeclared, List.head?_cons]
  steps := by
    intro place step hstep
    have hloaded := getElem?_fallThrough definition.steps place
    rw [hstep, Option.map_some] at hloaded
    refine ⟨_, ?_, loadsAs_linked step _⟩
    have hplace : place < (fallThrough definition.steps).length :=
      (List.getElem?_eq_some_iff.mp hloaded).1
    rw [nodes, List.getElem?_cons_succ, List.getElem?_append_left (by simpa [ofDeclared] using hplace),
      List.getElem?_map, ofDeclared, hloaded, Option.map_some]
  finish := by
    rw [nodes, ← List.cons_append, List.getLast?_concat]

/-- Where only link steps are without links, there are none to fill in. -/
theorem fallThrough_of_fallsThrough {steps : List Step}
    (h : ∀ step ∈ steps, step.next = [] → ∃ id, step.task = .link id) :
    fallThrough steps = steps := by
  have hlinked : ∀ step ∈ steps, ∀ following, linked step following = step := by
    intro step hstep following
    unfold linked
    split
    · rfl
    · rename_i hnext hother
      obtain ⟨id, htask⟩ := h step hstep hnext
      exact absurd htask (hother id)
    · rfl
  induction steps using fallThrough.induct with
  | case1 => rfl
  | case2 only => rw [fallThrough, hlinked only (List.mem_singleton_self _)]
  | case3 head following rest ih =>
    obtain ⟨hhead, hrest⟩ := List.forall_mem_cons.mp hlinked
    rw [fallThrough, hhead, ih (fun step hstep => h step (List.mem_cons_of_mem _ hstep)) hrest]

theorem FallsThrough.ofDeclared {flow : Flow} (h : flow.FallsThrough) :
    ofDeclared flow.id flow.name flow.declared = flow := by
  rw [Flow.ofDeclared, fallThrough_of_fallsThrough h]

end Flow

/-! ## Writing what was read -/

/-- The task can be told from its written form, where settings that are null are none. -/
def Task.Storable : Task → Prop
  | .generateResponse _ config => config ≠ some .null
  | _ => True

/-- The value that carries its variant is read as the variant reads the other fields. -/
theorem Decode.taggedFields_ok {α : Type} {tag : String}
    {variant : Json → Except DecodeError (Decoder α)} {fields : List (String × Json)} {name : Json}
    {decode : Decoder α} (hname : fields.filter (·.1 = tag) = [(tag, name)])
    (hvariant : variant name = .ok decode) :
    taggedFields tag variant fields = decode (.obj (fields.filter (·.1 ≠ tag))) := by
  rw [taggedFields, hname]
  dsimp only
  rw [hvariant]
  rfl

theorem Link.decode_links (links : List Link) :
    Decode.list decode (.arr (links.map toJson)) = .ok links :=
  Decode.list_written fun link _ => link.decode_toJson

theorem Rejection.decode_rejections (rejections : List Rejection) :
    Decode.list (form.decode .counted) (.arr (rejections.map toJson)) = .ok rejections :=
  Decode.list_written fun _ _ => rfl

theorem Assignment.decode_assignments (assignments : List Assignment) :
    Decode.list (form.decode .counted) (.arr (assignments.map toJson)) = .ok assignments :=
  Decode.list_written fun _ _ => rfl

namespace Task

open Decode (RecordForm)

theorem decode_optionalText (text : Option String) :
    Decode.nullable Decode.text (optionalText text) = .ok text := by
  cases text <;> rfl

theorem decode_config {config : Option Json} (h : config ≠ some .null) :
    Decode.nullable Decode.anything (config.getD .null) = .ok config := by
  cases config with
  | none => rfl
  | some value =>
    cases value with
    | null => exact absurd rfl h
    | _ => rfl

/-- The variant of a task reads its fields, in declared or in ascending order, as the task. -/
theorem decode_of_fields {task : Task} (h : task.Storable) {given : List (String × Json)}
    (hgiven : given = task.fields ∨ given = Table.ofEntries task.fields) :
    ∃ decode, variants.byNameOrIndex (.str task.kindName) = .ok decode ∧
      decode (.obj given) = .ok task := by
  -- which of two literal names comes first is computed, not said of their characters
  cases task with
  | action name =>
    refine ⟨_, rfl, ?_⟩
    have hread : actionForm.ofFields given = .ok name := by
      rcases hgiven with rfl | rfl <;>
        simp [-String.lt_iff_ltb, Table.ofEntries, Table.insert, RecordForm.ofFields,
          RecordForm.setAll, actionForm, fields, decode_optionalText]
    exact congrArg (Except.map Task.action) hread
  | collect slot utter rejections askBeforeFilling resetAfterFlowEnds =>
    refine ⟨_, rfl, ?_⟩
    have hread : collectForm.ofFields given =
        .ok ⟨slot, utter, rejections, askBeforeFilling, resetAfterFlowEnds⟩ := by
      rcases hgiven with rfl | rfl <;>
        simp [-String.lt_iff_ltb, Table.ofEntries, Table.insert, RecordForm.ofFields,
          RecordForm.setAll, collectForm, fields, Decode.text, Decode.truth, Except.map,
          decode_optionalText, Rejection.decode_rejections]
    exact congrArg (Except.map fun r : CollectFields =>
      Task.collect r.slot r.utter r.rejections r.askBeforeFilling r.resetAfterFlowEnds) hread
  | setSlots assignments =>
    refine ⟨_, rfl, ?_⟩
    have hread : setSlotsForm.ofFields given = .ok assignments := by
      rcases hgiven with rfl | rfl <;>
        simp [-String.lt_iff_ltb, Table.ofEntries, Table.insert, RecordForm.ofFields,
          RecordForm.setAll, setSlotsForm, fields, Assignment.decode_assignments]
    exact congrArg (Except.map Task.setSlots) hread
  | branch => exact ⟨_, rfl, rfl⟩
  | link flow =>
    refine ⟨_, rfl, ?_⟩
    rcases hgiven with rfl | rfl <;> rfl
  | generateResponse prompt config =>
    refine ⟨_, rfl, ?_⟩
    have hread : generateForm.ofFields given = .ok (prompt, config) := by
      rcases hgiven with rfl | rfl <;>
        simp [-String.lt_iff_ltb, Table.ofEntries, Table.insert, RecordForm.ofFields,
          RecordForm.setAll, generateForm, fields, Decode.text, Except.map, decode_config h]
    exact congrArg (Except.map fun r : String × Option Json => Task.generateResponse r.1 r.2) hread

end Task

namespace Step

open Decode (RecordForm)

/-- The fields of a step, in declared order. -/
def fields (step : Step) : List (String × Json) :=
  [("id", .str step.id), ("type", .str step.task.kindName)] ++ step.task.fields ++
    [("next", .arr (step.next.map Link.toJson))]

/-- A step is read from its fields, in declared or in ascending order, as it was. -/
theorem decode_of_fields {step : Step} (h : step.task.Storable) {given : List (String × Json)}
    (hgiven : given = step.fields ∨ given = Table.ofEntries step.fields) :
    decode (.obj given) = .ok step := by
  obtain ⟨id, task, next⟩ := step
  have hlinks := Link.decode_links next
  have hform : form.ofFields given = .ok (id, next) := by
    rcases hgiven with rfl | rfl <;> cases task <;>
      simp [-String.lt_iff_ltb, fields, Task.fields, Task.kindName, Table.ofEntries, Table.insert,
        RecordForm.ofFields, RecordForm.setAll, form, Decode.text, Except.map, hlinks]
  let others := given.filter fun field => field.1 ∉ form.names
  have hname : others.filter (·.1 = "type") = [("type", .str task.kindName)] := by
    rcases hgiven with rfl | rfl <;> cases task <;>
      simp [-String.lt_iff_ltb, others, fields, Task.fields, Task.kindName, Table.ofEntries,
        Table.insert, form]
  have hothers : others.filter (·.1 ≠ "type") = task.fields ∨
      others.filter (·.1 ≠ "type") = Table.ofEntries task.fields := by
    refine hgiven.imp (fun heq => ?_) fun heq => ?_ <;> subst heq <;> cases task <;>
      simp [-String.lt_iff_ltb, others, fields, Task.fields, Task.kindName, Table.ofEntries,
        Table.insert, form]
  obtain ⟨reader, hreader, htask⟩ := Task.decode_of_fields h hothers
  rw [decode, hform]
  dsimp only
  rw [Decode.taggedFields_ok hname hreader, htask]

end Step

/-! ## Tasks that were read -/

theorem Task.storable_of_variant {title : String} {decode : Decoder Task}
    (h : (title, decode) ∈ variants) {value : Json} {task : Task}
    (hdecode : decode value = .ok task) : task.Storable := by
  simp only [variants, List.mem_cons, Prod.mk.injEq, List.not_mem_nil, or_false] at h
  -- only texts are generated with settings
  rcases h with ⟨-, rfl⟩ | ⟨-, rfl⟩ | ⟨-, rfl⟩ | ⟨-, rfl⟩ | ⟨-, rfl⟩ | ⟨-, rfl⟩
  case inr.inr.inr.inl =>
    cases hdecode
    trivial
  case inr.inr.inr.inr.inr =>
    obtain ⟨read, hread, rfl⟩ := Decode.ok_of_map hdecode
    refine Decode.RecordForm.decode_invariant (Q := fun read : String × Option Json =>
      read.2 ≠ some .null) ?_ (Option.some_ne_none _).symm hread
    intro read name value read' hconfig hset
    dsimp only [generateForm] at hset
    split at hset
    · obtain ⟨prompt, -, rfl⟩ := Decode.ok_of_map hset
      exact hconfig
    · obtain ⟨config, hconfig', rfl⟩ := Decode.ok_of_map hset
      cases value <;> cases hconfig' <;> nofun
  all_goals
    obtain ⟨_, -, rfl⟩ := Decode.ok_of_map hdecode
    trivial

theorem Step.storable_of_decode {value : Json} {step : Step} (h : decode value = .ok step) :
    step.task.Storable := by
  cases value with
  | obj fields =>
    rw [decode] at h
    split at h
    · cases h
    · split at h
      · cases h
      · rename_i htask
        cases h
        refine Decode.taggedFields_gives (P := fun _ => True) (fun name decode hfound => ?_)
          (fun _ _ => trivial) htask
        obtain ⟨title, hmem⟩ := Decode.Variants.mem_of_byNameOrIndex hfound
        exact fun _ _ _ hdecode => Task.storable_of_variant hmem hdecode
  | _ => cases h

namespace Flow

variable {value : Json} {flow : Flow}

theorem storable_of_definition {definition : Definition}
    (h : form.decode .refused value = .ok definition) :
    ∀ step ∈ definition.steps, step.task.Storable := by
  refine Decode.RecordForm.decode_invariant (Q := fun definition : Definition =>
    ∀ step ∈ definition.steps, step.task.Storable) ?_ (fun _ hstep => by cases hstep) h
  intro definition name value read hdefinition hset
  rcases steps_of_set hset with heq | hsteps
  · rw [heq]
    exact hdefinition
  · intro step hstep
    obtain ⟨item, -, hitem⟩ := Decode.mem_list hsteps hstep
    exact Step.storable_of_decode hitem

theorem storable_of_decode (h : decode value = .ok flow) :
    ∀ step ∈ flow.declared, step.task.Storable := by
  obtain ⟨definition, hdefinition, rfl⟩ := definition_of_decode h
  exact forall_tasks_ofDeclared (storable_of_definition hdefinition) _ _

/-! ## Flows and catalogs -/

/-- The flow as an object, with its declared steps as they are written by `write`. -/
def saved (flow : Flow) (write : Step → Json) : Json :=
  .obj [("id", .str flow.id), ("name", Task.optionalText flow.name),
    ("steps", .arr (flow.declared.map write))]

/-- A flow that only link steps leave without links is read as it is, however its steps are
written. -/
theorem decode_saved {write : Step → Json} (hfalls : flow.FallsThrough)
    (hwrite : ∀ step ∈ flow.declared, Step.decode (write step) = .ok step) :
    decode (flow.saved write) = .ok flow := by
  have hread : form.decode .refused (flow.saved write) =
      .ok ⟨flow.id, flow.name, flow.declared⟩ := by
    have hsteps := Decode.list_written hwrite
    have hname := Task.decode_optionalText flow.name
    simp [saved, Decode.RecordForm.decode, Decode.RecordForm.ofFields, Decode.RecordForm.setAll,
      form, Decode.text, Except.map, hsteps, hname]
  rw [decode, hread]
  exact congrArg Except.ok hfalls.ofDeclared

/-- A flow that was read and written is read as it was, with the fields of its steps in declared or
in ascending order. -/
theorem decode_of_decode (h : decode value = .ok flow) :
    decode flow.toJson = .ok flow ∧ decode (flow.saved (·.toJson.ordered)) = .ok flow := by
  have hfalls := fallsThrough_of_decode h
  have hstorable := storable_of_decode h
  constructor
  · exact decode_saved hfalls fun step hstep =>
      Step.decode_of_fields (hstorable step hstep) (Or.inl rfl)
  · exact decode_saved hfalls fun step hstep =>
      Step.decode_of_fields (hstorable step hstep) (Or.inr rfl)

end Flow

/-- The catalog as an object, with its flows as they are written by `write`. -/
def Catalog.saved (catalog : Catalog) (write : Flow → Json) : Json :=
  .obj [("flows", .arr (List.map write catalog))]

theorem Catalog.decode_saved {catalog : Catalog} {write : Flow → Json}
    (hwrite : ∀ flow ∈ catalog, Flow.decode (write flow) = .ok flow) :
    decode (catalog.saved write) = .ok catalog := by
  have hflows := Decode.list_written hwrite
  simp [saved, decode, Decode.RecordForm.decode, Decode.RecordForm.ofFields,
    Decode.RecordForm.setAll, form, hflows]

/-- A flow is loaded with the steps of its definition, between a start and an end, and with only
their missing links filled in. What was loaded has no more links to fill in, and a flow or a catalog
that was loaded and saved is loaded as it was, with the fields of its steps in declared or in ascending
order. -/
theorem Catalog.reloads_as_loaded :
    (∀ (value : Json) (flow : Flow), Flow.decode value = .ok flow →
      (∃ definition, Flow.form.decode .refused value = .ok definition ∧
        definition.LoadsAs flow) ∧
      .ofDeclared flow.id flow.name flow.declared = flow ∧
      Flow.decode flow.toJson = .ok flow ∧
      Flow.decode (flow.saved (·.toJson.ordered)) = .ok flow) ∧
    ∀ (value : Json) (catalog : Catalog), decode value = .ok catalog →
      decode (catalog.saved Flow.toJson) = .ok catalog ∧
      decode (catalog.saved (·.saved (·.toJson.ordered))) = .ok catalog := by
  constructor
  · intro value flow h
    obtain ⟨definition, hdefinition, rfl⟩ := Flow.definition_of_decode h
    exact ⟨⟨definition, hdefinition, Flow.loadsAs_ofDeclared definition⟩,
      (Flow.fallsThrough_of_decode h).ofDeclared, Flow.decode_of_decode h⟩
  · intro value catalog h
    have hreload : ∀ flow ∈ catalog, Flow.decode flow.toJson = .ok flow ∧
        Flow.decode (flow.saved (·.toJson.ordered)) = .ok flow := by
      refine Decode.RecordForm.decode_invariant (Q := fun catalog : Catalog => ∀ flow ∈ catalog,
        Flow.decode flow.toJson = .ok flow ∧
          Flow.decode (flow.saved (·.toJson.ordered)) = .ok flow) ?_
        (fun _ hflow => by cases hflow) h
      intro _ _ value read _ hset flow hflow
      obtain ⟨item, -, hitem⟩ := Decode.mem_list hset hflow
      exact Flow.decode_of_decode hitem
    exact ⟨decode_saved fun flow hflow => (hreload flow hflow).1,
      decode_saved fun flow hflow => (hreload flow hflow).2⟩

/-- The value of a flow that leaves out links and has settings that are null. -/
def Catalog.surveyValue : Json :=
  .obj [("id", .str "survey"), ("steps", .arr
    [.obj [("id", .str "ask"), ("type", .str "collect"), ("collect", .str "mood")],
      .obj [("id", .str "react"), ("type", .str "branch"), ("next", .arr
        [.obj [("kind", .str "if"), ("condition", .str "slots.mood"), ("target", .str "thank")],
          .obj [("kind", .str "else"), ("target", .str "END")]])],
      .obj [("id", .str "thank"), ("type", .str "generate_response"), ("prompt", .str "Thank them."),
        ("llm_config", .null)],
      .obj [("id", .str "on"), ("type", .str "link"), ("link", .str "order")]])]

/-- The flow of that value. -/
def Catalog.survey : Flow where
  id := "survey"
  name := none
  declared :=
    [⟨"ask", .collect "mood" none [] false true, [.always "react"]⟩,
      ⟨"react", .branch, [.when "slots.mood" "thank", .otherwise "END"]⟩,
      ⟨"thank", .generateResponse "Thank them." none, [.always "on"]⟩,
      ⟨"on", .link "order", []⟩]

/-- The survey and the catalog of orders are loaded again as they were. -/
theorem Catalog.survey_and_order_reload :
    Flow.decode surveyValue = .ok survey ∧ survey.toJson ≠ surveyValue ∧
      Flow.decode survey.toJson = .ok survey ∧
      decode orderValue = .ok order ∧
      decode (order.saved Flow.toJson) = .ok order := by
  have hsurvey : Flow.decode surveyValue = .ok survey := rfl
  have horder : decode orderValue = .ok order := rfl
  exact ⟨hsurvey, by decide, (reloads_as_loaded.1 _ _ hsurvey).2.2.1, horder,
    (reloads_as_loaded.2 _ _ horder).1⟩

end DialogueFlow
