/-
  Normal values. The fields of every object in them ascend, so no field is repeated. `normal` gives
  such a value (`isNormal_normal`) and leaves those that are one (`normal_of_isNormal`). `ordered`
  sorts the fields of one object and leaves what is inside.
-/
import DialogueFlow.Json.Parser

namespace DialogueFlow.Json

/-- An object with its fields in ascending order; their values, and any other value, stay. -/
def ordered : Json → Json
  | .obj fields => .obj (Table.ofEntries fields)
  | value => value

mutual

/-- The fields of every object in the value ascend by name. -/
def IsNormal : Json → Prop
  | .arr items => ItemsNormal items
  | .obj fields => Table.Sorted fields ∧ FieldsNormal fields
  | _ => True

/-- The items are normal. -/
def ItemsNormal : List Json → Prop
  | [] => True
  | item :: rest => item.IsNormal ∧ ItemsNormal rest

/-- The values of the fields are normal. -/
def FieldsNormal : List (String × Json) → Prop
  | [] => True
  | (_, value) :: rest => value.IsNormal ∧ FieldsNormal rest

end

theorem ordered_obj (fields : List (String × Json)) :
    (obj fields).ordered = .obj (Table.ofEntries fields) := rfl

theorem itemsNormal_iff {items : List Json} :
    ItemsNormal items ↔ ∀ item ∈ items, item.IsNormal := by
  induction items with
  | nil => simp [ItemsNormal]
  | cons item rest ih => rw [ItemsNormal, ih, List.forall_mem_cons]

theorem fieldsNormal_iff {fields : List (String × Json)} :
    FieldsNormal fields ↔ ∀ field ∈ fields, field.2.IsNormal := by
  induction fields with
  | nil => simp [FieldsNormal]
  | cons field rest ih => rw [FieldsNormal, ih, List.forall_mem_cons]

theorem isNormal_arr {items : List Json} :
    (arr items).IsNormal ↔ ∀ item ∈ items, item.IsNormal := itemsNormal_iff

theorem isNormal_obj {fields : List (String × Json)} :
    (obj fields).IsNormal ↔ Table.Sorted fields ∧ ∀ field ∈ fields, field.2.IsNormal := by
  rw [IsNormal, fieldsNormal_iff]

mutual

/-- What `normal` gives is normal. -/
theorem isNormal_normal : (value : Json) → value.normal.IsNormal
  | .null | .bool _ | .int _ | .float _ | .str _ => trivial
  | .arr items => itemsNormal_normalItems items
  | .obj fields => by
    rw [normal, isNormal_obj]
    exact ⟨Table.sorted_ofEntries _, fun field hfield =>
      fieldsNormal_iff.mp (fieldsNormal_normalFields fields) field (Table.mem_ofEntries hfield)⟩

theorem itemsNormal_normalItems : (items : List Json) → ItemsNormal (normalItems items)
  | [] => trivial
  | item :: rest => ⟨isNormal_normal item, itemsNormal_normalItems rest⟩

theorem fieldsNormal_normalFields :
    (fields : List (String × Json)) → FieldsNormal (normalFields fields)
  | [] => trivial
  | (_, value) :: rest => ⟨isNormal_normal value, fieldsNormal_normalFields rest⟩

end

mutual

/-- A normal value stays as it is. -/
theorem normal_of_isNormal : (value : Json) → value.IsNormal → value.normal = value
  | .null, _ | .bool _, _ | .int _, _ | .float _, _ | .str _, _ => rfl
  | .arr items, h => congrArg arr (normalItems_of_itemsNormal items h)
  | .obj fields, h => by
    rw [normal, normalFields_of_fieldsNormal fields h.2, Table.ofEntries_of_sorted h.1]

theorem normalItems_of_itemsNormal :
    (items : List Json) → ItemsNormal items → normalItems items = items
  | [], _ => rfl
  | item :: rest, h => by
    rw [normalItems, normal_of_isNormal item h.1, normalItems_of_itemsNormal rest h.2]

theorem normalFields_of_fieldsNormal :
    (fields : List (String × Json)) → FieldsNormal fields → normalFields fields = fields
  | [], _ => rfl
  | (name, value) :: rest, h => by
    rw [normalFields, normal_of_isNormal value h.1, normalFields_of_fieldsNormal rest h.2]

end

/-- The value of a text is normal. -/
theorem isNormal_of_parse? {text : String} {value : Json} (h : parse? text = some value) :
    value.IsNormal := by
  obtain ⟨raw, -, rfl⟩ := Option.map_eq_some_iff.mp h
  exact isNormal_normal raw

end DialogueFlow.Json
