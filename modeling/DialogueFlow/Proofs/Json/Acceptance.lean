/-
  What the values have that a schema accepts, one lemma for each rule; and schemas that are strict
  enough for a decoder (`Schema.Covers`): it reads every normal value that they accept. Coverage goes
  by the parts of the value: `Covers.list` for lists, `CoversFields.closed` for records and
  `reads_taggedFields` for variants.
-/
import DialogueFlow.Flow.CatalogSchema
import DialogueFlow.Proofs.Json.Normal
import DialogueFlow.Decode.Tagged
import Mathlib.Tactic.Common

namespace DialogueFlow

namespace Schema

/-! ## Rules -/

theorem accepts_all {rules : List Schema} {value : Json} :
    (all rules).Accepts value ↔ ∀ rule ∈ rules, rule.Accepts value := by
  unfold Accepts
  show violationsOfAll rules value = [] ↔ _
  induction rules with
  | nil => simp [violationsOfAll]
  | cons rule rest ih => rw [violationsOfAll, List.append_eq_nil_iff, ih, List.forall_mem_cons]

theorem accepts_kind {kinds : List JsonKind} {value : Json} :
    (kind kinds).Accepts value ↔ ∃ kind ∈ kinds, kind.holds value = true := by
  show (if kinds.any (·.holds value) then [] else [Violation.wrongKind value kinds]) = [] ↔ _
  rw [ite_eq_left_iff, ← List.any_eq_true]
  simp

theorem accepts_only {only : JsonKind} {value : Json} :
    (kind [only]).Accepts value ↔ only.holds value = true := by
  simp only [accepts_kind, List.mem_singleton, exists_eq_left]

theorem accepts_among {names : List String} {value : Json} :
    (among names).Accepts value ↔ ∃ name ∈ names, value = .str name := by
  show (if isAmong names value then [] else [Violation.notAmong value names]) = [] ↔ _
  cases value <;> simp [isAmong]

theorem accepts_required {names : List String} {fields : Table Json} :
    (required names).Accepts (.obj fields) ↔ ∀ name ∈ names, (Table.get? fields name).isSome := by
  show (names.filter fun name => !Table.contains fields name).map Violation.missing = [] ↔ _
  simp [Table.contains, Option.isSome_iff_ne_none]

theorem accepts_fields {schemas : List (String × Schema)} {found : Table Json} :
    (fields schemas).Accepts (.obj found) ↔ ∀ entry ∈ schemas, ∀ value,
      Table.get? found entry.1 = some value → entry.2.Accepts value := by
  unfold Accepts
  show violationsOfFields schemas found = [] ↔ _
  induction schemas with
  | nil => simp [violationsOfFields]
  | cons entry rest ih =>
    obtain ⟨name, schema⟩ := entry
    rw [violationsOfFields, List.append_eq_nil_iff, ih, List.forall_mem_cons]
    refine and_congr_left fun _ => ?_
    cases Table.get? found name <;> simp

theorem accepts_items {schema : Schema} {values : List Json} :
    (items schema).Accepts (.arr values) ↔ ∀ value ∈ values, schema.Accepts value := by
  unfold Accepts
  show (values.flatMap fun value => violations schema value) = [] ↔ _
  rw [List.flatMap_eq_nil_iff]

theorem accepts_unlessOther {name text : String} {schema : Schema} {value : Json} :
    (unlessOther name text schema).Accepts value ↔
      (mayBe name text value = true → schema.Accepts value) := by
  unfold Accepts
  show (if mayBe name text value then violations schema value else []) = [] ↔ _
  rw [ite_eq_right_iff]

theorem mayBe_of_get? {fields : Table Json} {name text : String}
    (h : Table.get? fields name = some (.str text)) : mayBe name text (.obj fields) = true := by
  rw [mayBe, h]
  exact decide_eq_true rfl

/-! ## Records that conform -/

/-- The fields of a normal object: these names are among them, and those that have a schema satisfy
it. -/
structure Conforms (names : List String) (schemas : List (String × Schema)) (found : Table Json) :
    Prop where
  normal : (Json.obj found).IsNormal
  present : ∀ name ∈ names, (Table.get? found name).isSome
  satisfied : ∀ entry ∈ schemas, ∀ value,
    Table.get? found entry.1 = some value → entry.2.Accepts value

variable {names : List String} {schemas : List (String × Schema)} {found : Table Json}

theorem Conforms.nodup (h : Conforms names schemas found) : found.names.Nodup :=
  Table.nodup_names (Json.isNormal_obj.mp h.normal).1

/-- Fields may be left out that need not be there. -/
theorem Conforms.filter (h : Conforms names schemas found) (keep : String → Bool)
    {kept : List String} (hkept : ∀ name ∈ kept, name ∈ names ∧ keep name = true) :
    Conforms kept schemas (List.filter (fun field => keep field.1) found) where
  normal := by
    obtain ⟨hsorted, hvalues⟩ := Json.isNormal_obj.mp h.normal
    exact Json.isNormal_obj.mpr ⟨List.Pairwise.filter _ hsorted,
      fun field hfield => hvalues field (List.mem_filter.mp hfield).1⟩
  present := by
    intro name hname
    rw [Table.get?_filter, if_pos (hkept name hname).2]
    exact h.present name (hkept name hname).1
  satisfied := by
    intro entry hentry value hvalue
    rw [Table.get?_filter] at hvalue
    split at hvalue
    · exact h.satisfied entry hentry value hvalue
    · cases hvalue

/-- More fields may turn out to be there. -/
theorem Conforms.add (h : Conforms names schemas found) {more : List String}
    (hmore : (required more).Accepts (.obj found)) : Conforms (names ++ more) schemas found where
  normal := h.normal
  present := by
    intro name hname
    rcases List.mem_append.mp hname with hname | hname
    · exact h.present name hname
    · exact accepts_required.mp hmore name hname
  satisfied := h.satisfied

theorem accepts_closed {value : Json} (hnormal : value.IsNormal)
    (h : (CatalogSchema.closed names schemas).Accepts value) :
    ∃ found, value = .obj found ∧ Conforms names schemas found := by
  unfold CatalogSchema.closed at h
  simp only [accepts_all, List.forall_mem_cons] at h
  obtain ⟨hkind, -, hnames, hfields, -⟩ := h
  have hholds := accepts_only.mp hkind
  cases value with
  | obj found => exact ⟨found, rfl, hnormal, accepts_required.mp hnames, accepts_fields.mp hfields⟩
  | _ => cases hholds

end Schema

/-! ## Values that a decoder reads -/

namespace Decode

variable {α β : Type}

/-- The decoder does not refuse the value. -/
def Reads (decode : Decoder α) (value : Json) : Prop := ∃ a, decode value = .ok a

theorem Reads.map {decode : Decoder α} {value : Json} (h : Reads decode value) (f : α → β) :
    Reads (fun value => (decode value).map f) value := by
  obtain ⟨a, ha⟩ := h
  exact ⟨f a, congrArg (Except.map f) ha⟩

theorem reads_list {decode : Decoder α} {items : List Json}
    (h : ∀ item ∈ items, Reads decode item) : Reads (list decode) (.arr items) := by
  induction items with
  | nil => exact ⟨[], rfl⟩
  | cons item rest ih =>
    obtain ⟨a, ha⟩ := h item List.mem_cons_self
    obtain ⟨as, has⟩ := ih fun other hother => h other (List.mem_cons_of_mem _ hother)
    rw [list] at has
    exact ⟨a :: as, by rw [list, each, ha, has]⟩

namespace RecordForm

variable {form : RecordForm α}

/-- Fields of different names that can each be set can be set one after another; the known names
are then seen. -/
theorem setAll_ok {fields : List (String × Json)} (hnodup : (fields.map (·.1)).Nodup)
    (hset : ∀ field ∈ fields, field.1 ∈ form.names →
      ∀ record, Reads (form.set record field.1) field.2)
    {seen : List String} (hseen : ∀ field ∈ fields, field.1 ∉ seen) (record : α) :
    ∃ seen' record', form.setAll seen record fields = .ok (seen', record') ∧
      ∀ name, name ∈ seen ∨ (name ∈ form.names ∧ name ∈ fields.map (·.1)) → name ∈ seen' := by
  induction fields generalizing seen record with
  | nil => exact ⟨seen, record, rfl, fun name hname => hname.resolve_right (by simp)⟩
  | cons field rest ih =>
    obtain ⟨name, value⟩ := field
    obtain ⟨hhead, hrest⟩ := List.nodup_cons.mp hnodup
    have hsetRest : ∀ field ∈ rest, field.1 ∈ form.names →
        ∀ record, Reads (form.set record field.1) field.2 :=
      fun field hfield => hset field (List.mem_cons_of_mem _ hfield)
    by_cases hknown : name ∈ form.names
    · obtain ⟨next, hnext⟩ := hset _ List.mem_cons_self hknown record
      have hnew : name ∉ seen := hseen _ List.mem_cons_self
      have hseenRest : ∀ field ∈ rest, field.1 ∉ name :: seen := by
        intro field hfield hmem
        rcases List.mem_cons.mp hmem with heq | hmem
        · exact hhead (List.mem_map.mpr ⟨field, hfield, heq⟩)
        · exact hseen field (List.mem_cons_of_mem _ hfield) hmem
      obtain ⟨seen', record', hall, hmem⟩ := ih hrest hsetRest hseenRest next
      refine ⟨seen', record', ?_, fun other hother => hmem other ?_⟩
      · rw [setAll, if_neg (not_not.mpr hknown), if_neg hnew, hnext]
        exact hall
      · simp only [List.map_cons, List.mem_cons] at hother ⊢
        tauto
    · have hseenRest : ∀ field ∈ rest, field.1 ∉ seen :=
        fun field hfield => hseen field (List.mem_cons_of_mem _ hfield)
      obtain ⟨seen', record', hall, hmem⟩ := ih hrest hsetRest hseenRest record
      refine ⟨seen', record', ?_, fun other hother => hmem other ?_⟩
      · rw [setAll, if_pos hknown]
        exact hall
      · simp only [List.map_cons, List.mem_cons] at hother
        rcases hother with hother | ⟨hother, rfl | hrest⟩
        · exact Or.inl hother
        · exact absurd hother hknown
        · exact Or.inr ⟨hother, hrest⟩

end RecordForm

/-- An object of different fields with a tag that names a variant, which reads the others. -/
theorem reads_taggedFields {tag : String} {variant : Json → Except DecodeError (Decoder α)}
    {fields : Table Json} (hnodup : fields.names.Nodup) {name : Json}
    (htag : Table.get? fields tag = some name) {decode : Decoder α}
    (hvariant : variant name = .ok decode)
    (hdecode : Reads decode (.obj (fields.filter (·.1 ≠ tag)))) :
    ∃ a, taggedFields tag variant fields = .ok a := by
  obtain ⟨a, ha⟩ := hdecode
  refine ⟨a, ?_⟩
  unfold taggedFields
  rw [Table.filter_eq_singleton hnodup htag]
  dsimp only
  rw [hvariant]
  exact (if_pos rfl).trans ha

end Decode

/-! ## Schemas that are strict enough for a decoder -/

namespace Schema

open Decode (Reads)

variable {α β : Type} {schema : Schema} {decode : Decoder α}

/-- The decoder reads every normal value that the schema accepts. -/
def Covers (schema : Schema) (decode : Decoder α) : Prop :=
  ∀ value : Json, value.IsNormal → schema.Accepts value → Reads decode value

theorem Covers.map (h : schema.Covers decode) (f : α → β) :
    schema.Covers fun value => (decode value).map f :=
  fun value hnormal haccepts => (h value hnormal haccepts).map f

theorem covers_text : (kind [.string]).Covers Decode.text := by
  intro value _ h
  have hholds := accepts_only.mp h
  cases value with
  | str s => exact ⟨s, rfl⟩
  | _ => cases hholds

theorem covers_identifier : CatalogSchema.identifier.Covers Decode.text :=
  fun value hnormal h =>
    covers_text value hnormal (accepts_all.mp h _ List.mem_cons_self)

theorem covers_optionalText : CatalogSchema.optionalText.Covers (Decode.nullable Decode.text) := by
  intro value _ h
  obtain ⟨kind, hmem, hholds⟩ := accepts_kind.mp h
  simp only [List.mem_cons, List.not_mem_nil, or_false] at hmem
  rcases hmem with rfl | rfl
  · cases value with
    | null => exact ⟨none, rfl⟩
    | _ => cases hholds
  · cases value with
    | str s => exact ⟨some s, rfl⟩
    | _ => cases hholds

theorem covers_truth : (kind [.boolean]).Covers Decode.truth := by
  intro value _ h
  have hholds := accepts_only.mp h
  cases value with
  | bool b => exact ⟨b, rfl⟩
  | _ => cases hholds

theorem covers_anything (schema : Schema) : schema.Covers (Decode.nullable Decode.anything) :=
  fun value _ _ => by cases value <;> exact ⟨_, rfl⟩

theorem Covers.list (h : schema.Covers decode) :
    (CatalogSchema.listOf schema).Covers (Decode.list decode) := by
  intro value hnormal haccepts
  unfold CatalogSchema.listOf at haccepts
  simp only [accepts_all, List.forall_mem_cons] at haccepts
  obtain ⟨hkind, hitems, -⟩ := haccepts
  have hholds := accepts_only.mp hkind
  cases value with
  | arr items =>
    exact Decode.reads_list fun item hitem =>
      h item (Json.isNormal_arr.mp hnormal item hitem) (accepts_items.mp hitems item hitem)
  | _ => cases hholds

/-- The schemas are strict enough for a record: its fields without a default are present, and the
schema of each of its fields is strict enough for that. -/
structure CoversFields (names : List String) (schemas : List (String × Schema))
    (form : Decode.RecordForm α) : Prop where
  present : ∀ name ∈ form.required, name ∈ names ∧ name ∈ form.names
  covered : ∀ name ∈ form.names,
    ∃ schema, (name, schema) ∈ schemas ∧ ∀ record, schema.Covers (form.set record name)

variable {names : List String} {schemas : List (String × Schema)} {found : Table Json}
  {form : Decode.RecordForm α}

theorem Conforms.reads (h : Conforms names schemas found)
    (hform : CoversFields names schemas form) (surplus : Decode.Surplus) :
    Reads (form.decode surplus) (.obj found) := by
  obtain ⟨-, hvalues⟩ := Json.isNormal_obj.mp h.normal
  have hset : ∀ field ∈ found, field.1 ∈ form.names →
      ∀ record, Reads (form.set record field.1) field.2 := by
    intro field hfield hknown record
    obtain ⟨schema, hschema, hcovers⟩ := hform.covered field.1 hknown
    exact hcovers record field.2 (hvalues field hfield)
      (h.satisfied _ hschema field.2 (Table.get?_of_mem h.nodup hfield))
  obtain ⟨seen, record, hall, hseen⟩ :=
    Decode.RecordForm.setAll_ok h.nodup hset (fun _ _ => List.not_mem_nil) form.blank
  have hrequired : form.required.find? (· ∉ seen) = none := by
    refine List.find?_eq_none.mpr fun name hname => ?_
    obtain ⟨hpresent, hknown⟩ := hform.present name hname
    obtain ⟨value, hvalue⟩ := Option.isSome_iff_exists.mp (h.present name hpresent)
    have hfound : name ∈ found.map (·.1) := List.mem_map.mpr ⟨_, Table.mem_of_get? hvalue, rfl⟩
    simpa using hseen name (Or.inr ⟨hknown, hfound⟩)
  refine ⟨record, ?_⟩
  rw [Decode.RecordForm.decode, Decode.RecordForm.ofFields, hall]
  dsimp only
  rw [hrequired]

theorem CoversFields.closed (hform : CoversFields names schemas form) (surplus : Decode.Surplus) :
    (CatalogSchema.closed names schemas).Covers (form.decode surplus) := by
  intro value hnormal haccepts
  obtain ⟨found, rfl, hconforms⟩ := accepts_closed hnormal haccepts
  exact hconforms.reads hform surplus

end Schema

end DialogueFlow
