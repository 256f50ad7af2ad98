/-
  How deep values are nested. No reader gives a value that is nested deeper than it allows
  (`depth_of_parse?`, `depth_of_parseWanted?`), and a value that was made normal is not nested deeper
  than before. `Fits` joins the depth of a value with its being normal, as both pass on to its parts.
-/
import DialogueFlow.Json.Selection
import DialogueFlow.Proofs.Json.Normal
import Mathlib.Tactic.Common

namespace DialogueFlow.Json

theorem itemsDepth_cons_le {item : Json} {rest : List Json} {n : Nat} :
    itemsDepth (item :: rest) ≤ n ↔ item.depth ≤ n ∧ itemsDepth rest ≤ n := Nat.max_le

theorem fieldsDepth_cons_le {name : String} {value : Json} {rest : List (String × Json)} {n : Nat} :
    fieldsDepth ((name, value) :: rest) ≤ n ↔ value.depth ≤ n ∧ fieldsDepth rest ≤ n := Nat.max_le

theorem itemsDepth_le {items : List Json} {n : Nat} :
    itemsDepth items ≤ n ↔ ∀ item ∈ items, item.depth ≤ n := by
  induction items with
  | nil => simp [itemsDepth]
  | cons item rest ih => rw [itemsDepth_cons_le, ih, List.forall_mem_cons]

theorem fieldsDepth_le {fields : List (String × Json)} {n : Nat} :
    fieldsDepth fields ≤ n ↔ ∀ field ∈ fields, field.2.depth ≤ n := by
  induction fields with
  | nil => simp [fieldsDepth]
  | cons field rest ih => rw [fieldsDepth_cons_le, ih, List.forall_mem_cons]

theorem depth_arr_le {items : List Json} {n : Nat} :
    (arr items).depth ≤ n + 1 ↔ itemsDepth items ≤ n := Nat.add_le_add_iff_right

theorem depth_obj_le {fields : List (String × Json)} {n : Nat} :
    (obj fields).depth ≤ n + 1 ↔ fieldsDepth fields ≤ n := Nat.add_le_add_iff_right

mutual

/-- Making a value normal does not deepen it. -/
theorem depth_normal_le : (value : Json) → {n : Nat} → value.depth ≤ n → value.normal.depth ≤ n
  | .null, _, h | .bool _, _, h | .int _, _, h | .float _, _, h | .str _, _, h => h
  | .arr _, 0, h | .obj _, 0, h => absurd h (Nat.not_succ_le_zero _)
  | .arr items, _ + 1, h => depth_arr_le.mpr (itemsDepth_normalItems_le items (depth_arr_le.mp h))
  | .obj fields, _ + 1, h => by
    have hfields := fieldsDepth_le.mp (fieldsDepth_normalFields_le fields (depth_obj_le.mp h))
    exact depth_obj_le.mpr
      (fieldsDepth_le.mpr fun field hfield => hfields field (Table.mem_ofEntries hfield))

theorem itemsDepth_normalItems_le : (items : List Json) → {n : Nat} → itemsDepth items ≤ n →
    itemsDepth (normalItems items) ≤ n
  | [], _, h => h
  | item :: rest, _, h => by
    obtain ⟨hitem, hrest⟩ := itemsDepth_cons_le.mp h
    exact itemsDepth_cons_le.mpr ⟨depth_normal_le item hitem, itemsDepth_normalItems_le rest hrest⟩

theorem fieldsDepth_normalFields_le : (fields : List (String × Json)) → {n : Nat} →
    fieldsDepth fields ≤ n → fieldsDepth (normalFields fields) ≤ n
  | [], _, h => h
  | (_, value) :: rest, _, h => by
    obtain ⟨hvalue, hrest⟩ := fieldsDepth_cons_le.mp h
    exact fieldsDepth_cons_le.mpr
      ⟨depth_normal_le value hvalue, fieldsDepth_normalFields_le rest hrest⟩

end

/-! ## Parts -/

/-- The values directly inside a value. -/
def parts : Json → List Json
  | .arr items => items
  | .obj fields => fields.map (·.2)
  | _ => []

theorem depth_of_mem_parts {value part : Json} {n : Nat} (h : value.depth ≤ n + 1)
    (hpart : part ∈ value.parts) : part.depth ≤ n := by
  cases value with
  | arr items => exact itemsDepth_le.mp (depth_arr_le.mp h) part hpart
  | obj fields =>
    obtain ⟨field, hfield, rfl⟩ := List.mem_map.mp hpart
    exact fieldsDepth_le.mp (depth_obj_le.mp h) field hfield
  | _ => cases hpart

theorem IsNormal.of_mem_parts {value part : Json} (h : value.IsNormal)
    (hpart : part ∈ value.parts) : part.IsNormal := by
  cases value with
  | arr items => exact isNormal_arr.mp h part hpart
  | obj fields =>
    obtain ⟨field, hfield, rfl⟩ := List.mem_map.mp hpart
    exact (isNormal_obj.mp h).2 field hfield
  | _ => cases hpart

/-- A normal value that is nested at most `n` levels deep. -/
structure Fits (n : Nat) (value : Json) : Prop where
  normal : value.IsNormal
  depth_le : value.depth ≤ n

theorem fits_null (n : Nat) : Fits n null := ⟨trivial, Nat.zero_le n⟩

theorem fits_str (n : Nat) (s : String) : Fits n (str s) := ⟨trivial, Nat.zero_le n⟩

namespace Fits

variable {n : Nat} {value part : Json}

theorem mono (h : Fits n value) {m : Nat} (hle : n ≤ m) : Fits m value :=
  ⟨h.normal, Nat.le_trans h.depth_le hle⟩

theorem of_mem_parts (h : Fits (n + 1) value) (hpart : part ∈ value.parts) : Fits n part :=
  ⟨h.normal.of_mem_parts hpart, depth_of_mem_parts h.depth_le hpart⟩

theorem arr {items : List Json} (h : ∀ item ∈ items, Fits n item) : Fits (n + 1) (arr items) :=
  ⟨isNormal_arr.mpr fun item hitem => (h item hitem).normal,
    depth_arr_le.mpr (itemsDepth_le.mpr fun item hitem => (h item hitem).depth_le)⟩

theorem obj {fields : Table Json} (hsorted : fields.Sorted) (h : ∀ field ∈ fields, Fits n field.2) :
    Fits (n + 1) (obj fields) :=
  ⟨isNormal_obj.mpr ⟨hsorted, fun field hfield => (h field hfield).normal⟩,
    depth_obj_le.mpr (fieldsDepth_le.mpr fun field hfield => (h field hfield).depth_le)⟩

end Fits

/-! ## What the readers give -/

theorem NumberText.depth_of_value? {number : NumberText} {value : Json}
    (h : number.value? = some value) : value.depth = 0 := by
  have hfloat : ∀ {found : Option Float} {signed : Float → Float},
      (found.map fun x => Json.float (signed x)) = some value → value.depth = 0 := by
    intro found signed h
    obtain ⟨x, -, rfl⟩ := Option.map_eq_some_iff.mp h
    rfl
  unfold value? at h
  dsimp only at h
  split at h
  · split at h
    · split at h
      · cases h
        rfl
      · split at h
        · cases h
          rfl
        · exact hfloat h
    · split at h
      · cases h
        rfl
      · exact hfloat h
  · exact hfloat h
  · exact hfloat h

/-- Readers with this fuel read nothing that is nested deeper than allowed. -/
structure ReadersWithin (fuel : Nat) : Prop where
  value : ∀ {depth cs value rest}, readValue? fuel depth cs = some (value, rest) →
    value.depth ≤ depth
  items : ∀ {depth cs items rest}, readItems? fuel depth cs = some (items, rest) →
    itemsDepth items ≤ depth
  fields : ∀ {depth cs fields rest}, readFields? fuel depth cs = some (fields, rest) →
    fieldsDepth fields ≤ depth

section

variable {fuel depth : Nat} {cs rest : List Char}

theorem ReadersWithin.value_succ (less : ReadersWithin fuel) {value : Json}
    (h : readValue? (fuel + 1) depth cs = some (value, rest)) : value.depth ≤ depth := by
  rw [readValue?] at h
  split at h
  · cases h
    exact Nat.zero_le _
  · cases h
    exact Nat.zero_le _
  · cases h
    exact Nat.zero_le _
  · obtain ⟨found, -, heq⟩ := Option.map_eq_some_iff.mp h
    cases heq
    exact Nat.zero_le _
  · -- an array, within what is left for its items
    split at h
    · cases h
    · split at h
      · cases h
        exact depth_arr_le.mpr (Nat.zero_le _)
      · obtain ⟨found, hfound, heq⟩ := Option.map_eq_some_iff.mp h
        cases heq
        exact depth_arr_le.mpr (less.items hfound)
  · -- an object, likewise
    split at h
    · cases h
    · split at h
      · cases h
        exact depth_obj_le.mpr (Nat.zero_le _)
      · obtain ⟨found, hfound, heq⟩ := Option.map_eq_some_iff.mp h
        cases heq
        exact depth_obj_le.mpr (less.fields hfound)
  · split at h
    · obtain ⟨found, hfound, heq⟩ := Option.map_eq_some_iff.mp h
      cases heq
      rw [NumberText.depth_of_value? hfound]
      exact Nat.zero_le _
    · cases h

theorem ReadersWithin.items_succ (less : ReadersWithin fuel) {items : List Json}
    (h : readItems? (fuel + 1) depth cs = some (items, rest)) : itemsDepth items ≤ depth := by
  rw [readItems?] at h
  split at h
  · cases h
  · rename_i hitem
    have hdepth := less.value hitem
    split at h
    · cases h
      exact itemsDepth_cons_le.mpr ⟨hdepth, Nat.zero_le _⟩
    · obtain ⟨found, hfound, heq⟩ := Option.map_eq_some_iff.mp h
      cases heq
      exact itemsDepth_cons_le.mpr ⟨hdepth, less.items hfound⟩
    · cases h

theorem ReadersWithin.fields_succ (less : ReadersWithin fuel) {fields : List (String × Json)}
    (h : readFields? (fuel + 1) depth cs = some (fields, rest)) : fieldsDepth fields ≤ depth := by
  rw [readFields?] at h
  split at h
  · cases h
  · split at h
    · cases h
    · rename_i hfield
      have hdepth := less.value hfield
      split at h
      · cases h
        exact fieldsDepth_cons_le.mpr ⟨hdepth, Nat.zero_le _⟩
      · obtain ⟨found, hfound, heq⟩ := Option.map_eq_some_iff.mp h
        cases heq
        exact fieldsDepth_cons_le.mpr ⟨hdepth, less.fields hfound⟩
      · cases h

end

theorem readersWithin (fuel : Nat) : ReadersWithin fuel := by
  induction fuel with
  | zero => exact ⟨nofun, nofun, nofun⟩
  | succ fuel ih => exact ⟨ih.value_succ, ih.items_succ, ih.fields_succ⟩

theorem depth_of_readValue? {fuel depth : Nat} {cs rest : List Char} {value : Json}
    (h : readValue? fuel depth cs = some (value, rest)) : value.depth ≤ depth :=
  (readersWithin fuel).value h

theorem depth_of_parseRaw? {text : String} {value : Json} (h : parseRaw? text = some value) :
    value.depth ≤ depthLimit := by
  unfold parseRaw? at h
  dsimp only at h
  split at h
  · rename_i hread
    split at h
    · cases h
      exact depth_of_readValue? hread
    · cases h
  · cases h

theorem depth_of_parse? {text : String} {value : Json} (h : parse? text = some value) :
    value.depth ≤ depthLimit := by
  obtain ⟨raw, hraw, rfl⟩ := Option.map_eq_some_iff.mp h
  exact depth_normal_le raw (depth_of_parseRaw? hraw)

/-- What is read behind a field, whether that is wanted or not: the end, or the fields to come. -/
def readBehind? (wanted : String → Bool) (fuel : Nat) (field : List (String × Json))
    (cs : List Char) : Option (List (String × Json) × List Char) :=
  match skipSpace cs with
  | '\x7d' :: rest => some (field, rest)
  | ',' :: rest => (readWanted? wanted fuel rest).map fun found => (field ++ found.1, found.2)
  | _ => none

theorem depth_of_readBehind? {wanted : String → Bool} {fuel : Nat} {cs rest : List Char}
    {field fields : List (String × Json)}
    (h : readBehind? wanted fuel field cs = some (fields, rest))
    (hfield : fieldsDepth field ≤ depthLimit - 1)
    (hrest : ∀ {cs rest fields}, readWanted? wanted fuel cs = some (fields, rest) →
      fieldsDepth fields ≤ depthLimit - 1) : fieldsDepth fields ≤ depthLimit - 1 := by
  unfold readBehind? at h
  split at h
  · cases h
    exact hfield
  · obtain ⟨found, hfound, heq⟩ := Option.map_eq_some_iff.mp h
    cases heq
    have hmore := hrest hfound
    rw [fieldsDepth_le] at hfield hmore ⊢
    exact List.forall_mem_append.mpr ⟨hfield, hmore⟩
  · cases h

theorem depth_of_readWanted? {wanted : String → Bool} {fuel : Nat} {cs rest : List Char}
    {fields : List (String × Json)} (h : readWanted? wanted fuel cs = some (fields, rest)) :
    fieldsDepth fields ≤ depthLimit - 1 := by
  induction fuel generalizing cs rest fields with
  | zero => cases h
  | succ fuel ih =>
    rw [readWanted?] at h
    obtain ⟨⟨name, cs⟩, -, h⟩ := Option.bind_eq_some_iff.mp h
    dsimp only at h
    split at h
    · obtain ⟨⟨field, cs⟩, hread, h⟩ := Option.bind_eq_some_iff.mp h
      obtain ⟨found, hfound, heq⟩ := Option.map_eq_some_iff.mp hread
      cases heq
      have hfield : fieldsDepth [(name, found.1)] ≤ depthLimit - 1 :=
        fieldsDepth_cons_le.mpr ⟨depth_of_readValue? hfound, Nat.zero_le _⟩
      exact depth_of_readBehind? h hfield ih
    · obtain ⟨⟨field, cs⟩, hread, h⟩ := Option.bind_eq_some_iff.mp h
      obtain ⟨found, hfound, heq⟩ := Option.map_eq_some_iff.mp hread
      cases heq
      exact depth_of_readBehind? h (Nat.zero_le _) ih

theorem depth_of_parseWanted? {wanted : String → Bool} {text : String} {value : Json}
    (h : parseWanted? wanted text = some value) : value.depth ≤ depthLimit := by
  unfold parseWanted? at h
  split at h
  · split at h
    · split at h
      · cases h
        decide
      · cases h
    · split at h
      · rename_i hfields
        split at h
        · cases h
          exact depth_obj_le.mpr (depth_of_readWanted? hfields)
        · cases h
      · cases h
  · exact depth_of_parseRaw? h

end DialogueFlow.Json
