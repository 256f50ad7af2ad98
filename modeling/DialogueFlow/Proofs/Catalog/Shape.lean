/-
  The schema of catalogs and the decoder of catalogs agree. Form by form, the schema of each part is
  strict enough for the decoder of that part; so whatever satisfies the schema of catalogs decodes
  (`Catalog.covers_decode`). Main statement: `accepted_decodes`. A text that is no catalog is no
  JSON, violates the schema or has defects, and never fails to decode after that.
-/
import DialogueFlow.Flow.Loading
import DialogueFlow.Proofs.Catalog.Loading
import DialogueFlow.Proofs.Json.Acceptance

namespace DialogueFlow

open Schema
open Decode (Reads)

/-! ## Links -/

namespace Link

/-- The schemas of the fields of links. -/
def schemas : List (String × Schema) :=
  [("kind", .among ["static", "if", "else"]), ("target", CatalogSchema.identifier),
    ("condition", .kind [.string])]

theorem coversFields_target (title : String) :
    CoversFields ["target"] schemas (targetForm title) where
  present := by
    intro name hname
    exact ⟨hname, hname⟩
  covered := by
    intro name hname
    obtain rfl := List.mem_singleton.mp hname
    exact ⟨CatalogSchema.identifier, by simp [schemas], fun _ => covers_identifier⟩

theorem coversFields_condition :
    CoversFields ["target", "condition"] schemas conditionForm where
  present := by decide
  covered := by
    intro name hname
    simp only [conditionForm, List.mem_cons, List.not_mem_nil, or_false] at hname
    rcases hname with rfl | rfl
    · exact ⟨.kind [.string], by simp [schemas], fun _ => covers_text.map _⟩
    · exact ⟨CatalogSchema.identifier, by simp [schemas], fun _ => covers_identifier.map _⟩

theorem covers_decode : CatalogSchema.link.Covers decode := by
  intro value hnormal h
  simp only [CatalogSchema.link, accepts_all, List.forall_mem_cons] at h
  obtain ⟨hclosed, hcondition, -⟩ := h
  obtain ⟨found, rfl, hfound⟩ := accepts_closed hnormal hclosed
  obtain ⟨kind, hkind⟩ := Option.isSome_iff_exists.mp (hfound.present "kind" List.mem_cons_self)
  obtain ⟨name, hname, rfl⟩ := accepts_among.mp (hfound.satisfied _ List.mem_cons_self kind hkind)
  have hothers : Conforms ["target"] schemas (found.filter (·.1 ≠ "kind")) :=
    hfound.filter (fun name => decide (name ≠ "kind")) (by simp)
  simp only [List.mem_cons, List.not_mem_nil, or_false] at hname
  rcases hname with rfl | rfl | rfl
  · have hread := hothers.reads (coversFields_target "struct variant FlowLink::Static") .counted
    exact Decode.reads_taggedFields hfound.nodup hkind rfl (hread.map _)
  · have hwhole := hfound.add (accepts_unlessOther.mp hcondition (mayBe_of_get? hkind))
    have hboth : Conforms ["target", "condition"] schemas (found.filter (·.1 ≠ "kind")) :=
      hwhole.filter (fun name => decide (name ≠ "kind")) (by simp)
    have hread := hboth.reads coversFields_condition .counted
    exact Decode.reads_taggedFields hfound.nodup hkind rfl (hread.map _)
  · have hread := hothers.reads (coversFields_target "struct variant FlowLink::Else") .counted
    exact Decode.reads_taggedFields hfound.nodup hkind rfl (hread.map _)

end Link

/-! ## Steps -/

theorem Rejection.coversFields : CoversFields ["if", "utter"]
    [("if", .kind [.string]), ("utter", .kind [.string])] form where
  present := by decide
  covered := by
    intro name hname
    simp only [form, List.mem_cons, List.not_mem_nil, or_false] at hname
    rcases hname with rfl | rfl
    · exact ⟨.kind [.string], by simp, fun _ => covers_text.map _⟩
    · exact ⟨.kind [.string], by simp, fun _ => covers_text.map _⟩

theorem Assignment.coversFields : CoversFields ["key", "value"]
    [("key", CatalogSchema.identifier), ("value", CatalogSchema.anything)] form where
  present := by decide
  covered := by
    intro name hname
    simp only [form, List.mem_cons, List.not_mem_nil, or_false] at hname
    rcases hname with rfl | rfl
    · exact ⟨CatalogSchema.identifier, by simp, fun _ => covers_identifier.map _⟩
    · exact ⟨CatalogSchema.anything, by simp, fun _ _ _ _ => ⟨_, rfl⟩⟩

namespace Task

theorem coversFields_action :
    CoversFields [] [("action", CatalogSchema.optionalText)] actionForm where
  present := by decide
  covered := by
    intro name hname
    obtain rfl := List.mem_singleton.mp hname
    exact ⟨CatalogSchema.optionalText, by simp, fun _ => covers_optionalText⟩

/-- The schemas of the fields of collect steps. -/
def collectSchemas : List (String × Schema) :=
  [("collect", CatalogSchema.identifier), ("utter", CatalogSchema.optionalText),
    ("rejections", CatalogSchema.listOf CatalogSchema.rejection),
    ("ask_before_filling", .kind [.boolean]), ("reset_after_flow_ends", .kind [.boolean])]

theorem coversFields_collect : CoversFields ["collect"] collectSchemas collectForm where
  present := by decide
  covered := by
    intro name hname
    simp only [collectForm, List.mem_cons, List.not_mem_nil, or_false] at hname
    rcases hname with rfl | rfl | rfl | rfl | rfl
    · exact ⟨CatalogSchema.identifier, by simp [collectSchemas], fun _ => covers_identifier.map _⟩
    · exact ⟨CatalogSchema.optionalText, by simp [collectSchemas],
        fun _ => covers_optionalText.map _⟩
    · exact ⟨CatalogSchema.listOf CatalogSchema.rejection, by simp [collectSchemas],
        fun _ => (Rejection.coversFields.closed .counted).list.map _⟩
    · exact ⟨.kind [.boolean], by simp [collectSchemas], fun _ => covers_truth.map _⟩
    · exact ⟨.kind [.boolean], by simp [collectSchemas], fun _ => covers_truth.map _⟩

theorem coversFields_setSlots : CoversFields ["slots"]
    [("slots", CatalogSchema.listOf CatalogSchema.assignment)] setSlotsForm where
  present := by decide
  covered := by
    intro name hname
    obtain rfl := List.mem_singleton.mp hname
    exact ⟨CatalogSchema.listOf CatalogSchema.assignment, by simp,
      fun _ => (Assignment.coversFields.closed .counted).list⟩

theorem coversFields_link :
    CoversFields ["link"] [("link", CatalogSchema.identifier)] linkForm where
  present := by decide
  covered := by
    intro name hname
    obtain rfl := List.mem_singleton.mp hname
    exact ⟨CatalogSchema.identifier, by simp, fun _ => covers_identifier⟩

theorem coversFields_generate : CoversFields ["prompt"]
    [("prompt", .kind [.string]), ("llm_config", CatalogSchema.anything)] generateForm where
  present := by decide
  covered := by
    intro name hname
    simp only [generateForm, List.mem_cons, List.not_mem_nil, or_false] at hname
    rcases hname with rfl | rfl
    · exact ⟨.kind [.string], by simp, fun _ => covers_text.map _⟩
    · exact ⟨CatalogSchema.anything, by simp, fun _ => (covers_anything _).map _⟩

end Task

namespace Step

theorem coversFields : CoversFields ["id", "type"]
    [("id", CatalogSchema.identifier),
      ("type", .among ["action", "collect", "set_slots", "branch", "link", "generate_response"]),
      ("next", CatalogSchema.listOf CatalogSchema.link)] form where
  present := by decide
  covered := by
    intro name hname
    simp only [form, List.mem_cons, List.not_mem_nil, or_false] at hname
    rcases hname with rfl | rfl
    · exact ⟨CatalogSchema.identifier, by simp, fun _ => covers_identifier.map _⟩
    · exact ⟨CatalogSchema.listOf CatalogSchema.link, by simp,
        fun _ => Link.covers_decode.list.map _⟩

/-- The fields of a step beside its id, its links and its type. -/
def ownFields (found : Table Json) : Table Json :=
  (found.filter fun field => field.1 ∉ form.names).filter (·.1 ≠ "type")

/-- The own fields of a step of a type conform to the rules of that type. -/
theorem conforms_ownFields {found : Table Json} {type : String} {names : List String}
    {schemas : List (String × Schema)} (hnormal : (Json.obj found).IsNormal)
    (htype : Table.get? found "type" = some (.str type))
    (h : (CatalogSchema.ofType type names schemas).Accepts (.obj found))
    (hnames : ∀ name ∈ names, name ∉ form.names ∧ name ≠ "type") :
    Conforms names schemas (ownFields found) := by
  have hrules := accepts_unlessOther.mp h (mayBe_of_get? htype)
  simp only [accepts_all, List.forall_mem_cons] at hrules
  obtain ⟨hpresent, hsatisfied, -⟩ := hrules
  have hfound : Conforms names schemas found :=
    ⟨hnormal, accepts_required.mp hpresent, accepts_fields.mp hsatisfied⟩
  have hothers : Conforms names schemas (found.filter fun field => field.1 ∉ form.names) :=
    hfound.filter (fun name => decide (name ∉ form.names))
      fun name hname => ⟨hname, decide_eq_true (hnames name hname).1⟩
  exact hothers.filter (fun name => decide (name ≠ "type"))
    fun name hname => ⟨hname, decide_eq_true (hnames name hname).2⟩

/-- The task of a step that satisfies the schema is read from its own fields. -/
theorem reads_task {found : Table Json} (hnormal : (Json.obj found).IsNormal)
    (h : CatalogSchema.step.Accepts (.obj found)) :
    ∃ task, Decode.taggedFields "type" Task.variants.byNameOrIndex
      (found.filter fun field => field.1 ∉ form.names) = .ok task := by
  simp only [CatalogSchema.step, accepts_all, List.forall_mem_cons] at h
  obtain ⟨-, hpresent, hsatisfied, haction, hcollect, hsetSlots, hlink, hgenerate, -⟩ := h
  obtain ⟨type, htype⟩ := Option.isSome_iff_exists.mp
    (accepts_required.mp hpresent "type" (by simp))
  obtain ⟨name, hname, rfl⟩ := accepts_among.mp
    (accepts_fields.mp hsatisfied _ (List.mem_cons_of_mem _ List.mem_cons_self) type htype)
  have htag : Table.get? (found.filter fun field => field.1 ∉ form.names) "type" =
      some (.str name) := by
    rw [Table.get?_filter fun name => decide (name ∉ form.names), if_pos (by decide), htype]
  have hnodup : (Table.names (found.filter fun field => field.1 ∉ form.names)).Nodup :=
    Table.nodup_names (List.Pairwise.filter _ (Json.isNormal_obj.mp hnormal).1)
  simp only [List.mem_cons, List.not_mem_nil, or_false] at hname
  rcases hname with rfl | rfl | rfl | rfl | rfl | rfl
  · have hfields := conforms_ownFields hnormal htype haction (by decide)
    have hread := hfields.reads Task.coversFields_action .counted
    exact Decode.reads_taggedFields hnodup htag rfl (hread.map _)
  · have hfields := conforms_ownFields hnormal htype hcollect (by decide)
    have hread := hfields.reads Task.coversFields_collect .counted
    exact Decode.reads_taggedFields hnodup htag rfl (hread.map _)
  · have hfields := conforms_ownFields hnormal htype hsetSlots (by decide)
    have hread := hfields.reads Task.coversFields_setSlots .counted
    exact Decode.reads_taggedFields hnodup htag rfl (hread.map _)
  · exact Decode.reads_taggedFields hnodup htag rfl ⟨.branch, rfl⟩
  · have hfields := conforms_ownFields hnormal htype hlink (by decide)
    have hread := hfields.reads Task.coversFields_link .counted
    exact Decode.reads_taggedFields hnodup htag rfl (hread.map _)
  · have hfields := conforms_ownFields hnormal htype hgenerate (by decide)
    have hread := hfields.reads Task.coversFields_generate .counted
    exact Decode.reads_taggedFields hnodup htag rfl (hread.map _)

theorem covers_decode : CatalogSchema.step.Covers decode := by
  intro value hnormal h
  have hrules := h
  simp only [CatalogSchema.step, accepts_all, List.forall_mem_cons] at hrules
  obtain ⟨hkind, hpresent, hsatisfied, -⟩ := hrules
  have hholds := accepts_only.mp hkind
  cases value with
  | obj found =>
    have hfound : Conforms ["id", "type"] _ found :=
      ⟨hnormal, accepts_required.mp hpresent, accepts_fields.mp hsatisfied⟩
    obtain ⟨common, hcommon⟩ := hfound.reads coversFields .refused
    obtain ⟨task, htask⟩ := reads_task hnormal h
    rw [Decode.RecordForm.decode] at hcommon
    exact ⟨⟨common.1, task, common.2⟩, by rw [decode, hcommon]; dsimp only; rw [htask]⟩
  | _ => cases hholds

end Step

/-! ## Flows and catalogs -/

theorem Flow.coversFields : CoversFields ["id"]
    [("id", CatalogSchema.identifier), ("name", CatalogSchema.optionalText),
      ("description", CatalogSchema.optionalText),
      ("steps", CatalogSchema.listOf CatalogSchema.step)] form where
  present := by decide
  covered := by
    intro name hname
    simp only [form, List.mem_cons, List.not_mem_nil, or_false] at hname
    rcases hname with rfl | rfl | rfl
    · exact ⟨CatalogSchema.identifier, by simp, fun _ => covers_identifier.map _⟩
    · exact ⟨CatalogSchema.optionalText, by simp, fun _ => covers_optionalText.map _⟩
    · exact ⟨CatalogSchema.listOf CatalogSchema.step, by simp,
        fun _ => Step.covers_decode.list.map _⟩

theorem Flow.covers_decode : CatalogSchema.flow.Covers decode :=
  (Flow.coversFields.closed .refused).map _

namespace Catalog

theorem coversFields : CoversFields ["flows"]
    [("flows", CatalogSchema.listOf CatalogSchema.flow)] form where
  present := by decide
  covered := by
    intro name hname
    obtain rfl := List.mem_singleton.mp hname
    exact ⟨CatalogSchema.listOf CatalogSchema.flow, by simp, fun _ => Flow.covers_decode.list⟩

theorem covers_decode : CatalogSchema.catalog.Covers decode := coversFields.closed .refused

/-- A normal value that satisfies the schema of catalogs decodes as a catalog. So loading a text
fails only because it is no JSON, because it violates the schema, or because of defects. -/
theorem accepted_decodes :
    (∀ value : Json, value.IsNormal → CatalogSchema.catalog.Accepts value →
      ∃ catalog, decode value = .ok catalog) ∧
    ∀ text cause, load text = .error cause → cause = .notJson ∨
      (∃ violations, cause = .schema violations) ∨ ∃ found, cause = .defects found := by
  refine ⟨covers_decode, fun text cause h => ?_⟩
  unfold load at h
  split at h
  · cases h
    exact Or.inl rfl
  · rename_i value hparse
    unfold ofJson at h
    split at h
    · cases h
      exact Or.inr (Or.inl ⟨_, rfl⟩)
    · rename_i haccepts
      obtain ⟨catalog, hdecode⟩ :=
        covers_decode value (Json.isNormal_of_parse? hparse) haccepts
      rw [hdecode] at h
      dsimp only at h
      split at h
      · cases h
      · cases h
        exact Or.inr (Or.inr ⟨_, rfl⟩)

/-- The catalog of two flows, and an object without flows. -/
theorem order_accepted_decodes :
    let value := (Json.parse? orderText).getD .null
    value.IsNormal ∧ CatalogSchema.catalog.Accepts value ∧
    (∃ catalog, decode value = .ok catalog) ∧
    load "\x7b\x7d" = .error (.schema [.missing "flows"]) ∧
    ∃ violations, LoadError.schema [.missing "flows"] = .schema violations := by
  intro value
  have hvalue : value = orderValue := by
    show (Json.parse? orderText).getD .null = orderValue
    rw [parse_order, Option.getD_some]
  have hparse : Json.parse? orderText = some value := by
    rw [hvalue]
    exact parse_order
  have haccepts : CatalogSchema.catalog.Accepts value := by
    rw [hvalue]
    decide +kernel
  clear_value value
  have hnormal : value.IsNormal := Json.isNormal_of_parse? hparse
  have hload : load "\x7b\x7d" = .error (.schema [.missing "flows"]) := by decide +kernel
  refine ⟨hnormal, haccepts, accepted_decodes.1 value hnormal haccepts, hload, ?_⟩
  rcases accepted_decodes.2 _ _ hload with h | h | ⟨_, h⟩
  · cases h
  · exact h
  · cases h

end Catalog

end DialogueFlow
