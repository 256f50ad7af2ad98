/-
  Written values are read as they were. `readValue?_indented`: the indented text of a value is read
  exactly if the value is nested no deeper than the reader allows, and then as that value; of numbers
  it is taken that each one's own text stands for it (`NumbersRoundTrip`). `parseWanted?_pretty`: so
  is the text of a whole object of which all fields are wanted.
-/
import DialogueFlow.Proofs.Json.Nesting
import DialogueFlow.Proofs.Json.Numbers

namespace DialogueFlow.Json

/-- The text of a number is that of a number which stands for it. -/
def RoundTrips (number : Json) : Prop :=
  ∃ written, readNumberText? number.writeAtom = some (written, []) ∧ written.value? = some number

mutual

/-- The text of every number inside the value stands for that number. -/
def NumbersRoundTrip : Json → Prop
  | .int n => RoundTrips (.int n)
  | .float x => RoundTrips (.float x)
  | .arr items => ItemsRoundTrip items
  | .obj fields => FieldsRoundTrip fields
  | _ => True

/-- The text of every number inside the items stands for that number. -/
def ItemsRoundTrip : List Json → Prop
  | [] => True
  | item :: rest => item.NumbersRoundTrip ∧ ItemsRoundTrip rest

/-- The text of every number inside the fields stands for that number. -/
def FieldsRoundTrip : List (String × Json) → Prop
  | [] => True
  | (_, value) :: rest => value.NumbersRoundTrip ∧ FieldsRoundTrip rest

end

theorem itemsRoundTrip_iff {items : List Json} :
    ItemsRoundTrip items ↔ ∀ item ∈ items, item.NumbersRoundTrip := by
  induction items with
  | nil => simp [ItemsRoundTrip]
  | cons item rest ih => rw [ItemsRoundTrip, ih, List.forall_mem_cons]

/-! ## Single steps of the readers -/

theorem readValue?_newLine (fuel depth level : Nat) (cs : List Char) :
    readValue? fuel depth (newLine level ++ cs) = readValue? fuel depth cs := by
  cases fuel with
  | zero => rfl
  | succ fuel => rw [readValue?, readValue?, skipSpace_newLine]

theorem readValue?_space (fuel depth : Nat) (cs : List Char) :
    readValue? fuel depth (' ' :: cs) = readValue? fuel depth cs := by
  cases fuel with
  | zero => rfl
  | succ fuel => rw [readValue?, readValue?, skipSpace_blank rfl]

theorem readItems?_newLine (fuel depth level : Nat) (cs : List Char) :
    readItems? fuel depth (newLine level ++ cs) = readItems? fuel depth cs := by
  cases fuel with
  | zero => rfl
  | succ fuel => rw [readItems?, readItems?, readValue?_newLine]

theorem readFields?_newLine (fuel depth level : Nat) (cs : List Char) :
    readFields? fuel depth (newLine level ++ cs) = readFields? fuel depth cs := by
  cases fuel with
  | zero => rfl
  | succ fuel => rw [readFields?, readFields?, readName?, readName?, skipSpace_newLine]

/-- A text that starts like a number is read as one. -/
theorem readValue?_number {c : Char} (h : c = '-' ∨ c.isDigit = true) (fuel depth : Nat)
    (cs : List Char) : readValue? (fuel + 1) depth (c :: cs) =
      match readNumberText? (c :: cs) with
      | some (number, rest) => number.value?.map fun value => (value, rest)
      | none => none := by
  have hother : ∀ d, d ≠ '-' → d.isDigit = false → c ≠ d := by
    rintro d hminus hdigit rfl
    rcases h with h | h
    · exact hminus h
    · rw [hdigit] at h
      cases h
  have hspace : isSpace c = false := by
    have h1 := hother ' ' (by decide) (by decide)
    have h2 := hother '\n' (by decide) (by decide)
    have h3 := hother '\t' (by decide) (by decide)
    have h4 := hother '\r' (by decide) (by decide)
    simp [isSpace, h1, h2, h3, h4]
  rw [readValue?, skipSpace_cons hspace]
  split
  case h_7 => rfl
  all_goals
    rename_i heq
    exact absurd (List.cons.inj heq).1 (hother _ (by decide) (by decide))

/-- A number is read from its own text. -/
theorem RoundTrips.readValue? {number : Json} (h : RoundTrips number) (fuel depth : Nat)
    {rest : List Char} (hrest : Delimited rest) :
    Json.readValue? (fuel + 1) depth (number.writeAtom ++ rest) = some (number, rest) := by
  obtain ⟨written, hwritten, hvalue⟩ := h
  obtain ⟨c, more, hcs, hc⟩ := head_of_readNumberText? hwritten
  have happend := readNumberText?_append hwritten hrest
  rw [hcs, List.cons_append] at happend ⊢
  rw [readValue?_number hc, happend]
  simp [hvalue]

/-- The reader goes on to the items of a list whose bracket is not closed at once. -/
theorem readValue?_items {c : Char} (hspace : isSpace c = false) (hclosing : c ≠ ']')
    (fuel depth level : Nat) (cs : List Char) :
    readValue? (fuel + 1) (depth + 1) ('[' :: (newLine level ++ c :: cs)) =
      (readItems? fuel depth (c :: cs)).map fun found => (.arr found.1, found.2) := by
  rw [readValue?, skipSpace_cons rfl]
  simp only [skipSpace_newLine, skipSpace_cons hspace]
  split
  · rename_i heq
    exact absurd (List.cons.inj heq).1 hclosing
  · rfl

/-- The reader goes on to the fields of an object that starts with a name. -/
theorem readValue?_fields (fuel depth level : Nat) (cs : List Char) :
    readValue? (fuel + 1) (depth + 1) ('\x7b' :: (newLine level ++ '"' :: cs)) =
      (readFields? fuel depth ('"' :: cs)).map fun found => (.obj found.1, found.2) := by
  rw [readValue?, skipSpace_cons rfl]
  simp only [skipSpace_newLine, skipSpace_cons (show isSpace '"' = false from rfl)]
  rfl

/-! ## Lists of items and fields -/

/-- The text of items, each but the first behind a comma and a line break. -/
def itemsText (level : Nat) : List Json → List Char
  | [] => []
  | item :: rest => item.indented level ++ indentedItems level rest

/-- The text of fields, each but the first behind a comma and a line break. -/
def fieldsText (level : Nat) : List (String × Json) → List Char
  | [] => []
  | (name, value) :: rest =>
    writeString name ++ ':' :: ' ' :: value.indented level ++ indentedFields level rest

theorem indentedItems_cons (level : Nat) (item : Json) (rest : List Json) :
    indentedItems level (item :: rest) =
      ',' :: (newLine level ++ itemsText level (item :: rest)) := by
  simp [indentedItems, itemsText]

theorem indentedFields_cons (level : Nat) (field : String × Json) (rest : List (String × Json)) :
    indentedFields level (field :: rest) =
      ',' :: (newLine level ++ fieldsText level (field :: rest)) := by
  simp [indentedFields, fieldsText]

theorem indented_arr (level : Nat) (item : Json) (rest : List Json) (after : List Char) :
    (arr (item :: rest)).indented level ++ after =
      '[' :: (newLine (level + 1) ++ (itemsText (level + 1) (item :: rest) ++
        (newLine level ++ ']' :: after))) := by
  simp [indented, itemsText]

theorem indented_obj (level : Nat) (field : String × Json) (rest : List (String × Json))
    (after : List Char) :
    (obj (field :: rest)).indented level ++ after =
      '\x7b' :: (newLine (level + 1) ++ (fieldsText (level + 1) (field :: rest) ++
        (newLine level ++ '\x7d' :: after))) := by
  simp [indented, fieldsText]

theorem delimited_items (level outer : Nat) (rest : List Json) (after : List Char) :
    Delimited (indentedItems level rest ++ (newLine outer ++ ']' :: after)) := by
  cases rest with
  | nil => exact .newLine _
  | cons item rest =>
    rw [indentedItems_cons]
    exact .comma _

theorem delimited_fields (level outer : Nat) (rest : List (String × Json)) (after : List Char) :
    Delimited (indentedFields level rest ++ (newLine outer ++ '\x7d' :: after)) := by
  cases rest with
  | nil => exact .newLine _
  | cons field rest =>
    rw [indentedFields_cons]
    exact .comma _

/-- A written value starts with a character that is neither blank nor a closing bracket. -/
theorem head_indented {value : Json} (h : value.NumbersRoundTrip) (level : Nat) :
    ∃ c more, value.indented level = c :: more ∧ isSpace c = false ∧ c ≠ ']' := by
  have hnumber : ∀ number : Json, RoundTrips number →
      ∃ c more, number.writeAtom = c :: more ∧ isSpace c = false ∧ c ≠ ']' := by
    rintro number ⟨_, hwritten, -⟩
    obtain ⟨c, more, hcs, hc⟩ := head_of_readNumberText? hwritten
    refine ⟨c, more, hcs, ?_⟩
    rcases hc with rfl | hdigit
    · decide
    · constructor
      · by_contra hspace
        simp only [isSpace, Bool.not_eq_false, Bool.or_eq_true, decide_eq_true_eq] at hspace
        rcases hspace with ((rfl | rfl) | rfl) | rfl <;> cases hdigit
      · rintro rfl
        cases hdigit
  cases value with
  | null => exact ⟨'n', _, rfl, rfl, by decide⟩
  | bool b => cases b <;> exact ⟨_, _, rfl, rfl, by decide⟩
  | int n => exact hnumber _ h
  | float x => exact hnumber _ h
  | str s => exact ⟨'"', _, rfl, rfl, by decide⟩
  | arr items => cases items <;> exact ⟨'[', _, rfl, rfl, by decide⟩
  | obj fields =>
    cases fields with
    | nil => exact ⟨'\x7b', _, rfl, rfl, by decide⟩
    | cons field rest => exact ⟨'\x7b', _, rfl, rfl, by decide⟩

/-! ## Whole values -/

mutual

/-- The indented text of a value is read as that value if it is not nested too deep, and else it is
not read. -/
theorem readValue?_indented : (value : Json) → value.NumbersRoundTrip →
    ∀ (fuel level : Nat), 2 * (value.indented level).length < fuel →
    ∀ (depth : Nat) {rest : List Char}, Delimited rest →
      readValue? fuel depth (value.indented level ++ rest) =
        if value.depth ≤ depth then some (value, rest) else none
  | .null, _, fuel + 1, _, _, depth, _, _ => (if_pos (Nat.zero_le depth)).symm
  | .bool true, _, fuel + 1, _, _, depth, _, _ => (if_pos (Nat.zero_le depth)).symm
  | .bool false, _, fuel + 1, _, _, depth, _, _ => (if_pos (Nat.zero_le depth)).symm
  | .int n, h, fuel + 1, _, _, depth, _, hrest =>
    (RoundTrips.readValue? h fuel depth hrest).trans (if_pos (Nat.zero_le depth)).symm
  | .float x, h, fuel + 1, _, _, depth, _, hrest =>
    (RoundTrips.readValue? h fuel depth hrest).trans (if_pos (Nat.zero_le depth)).symm
  | .str s, _, fuel + 1, level, _, depth, rest, _ => by
    have hstring := readString?_quoted s rest
    refine Eq.trans ?_ (if_pos (Nat.zero_le depth)).symm
    rw [show (str s).indented level = writeString s from rfl, writeString_append, readValue?,
      skipSpace_cons rfl]
    simp only [hstring, Option.map_some, String.ofList_toList]
  | .arr [], _, fuel + 1, _, _, 0, _, _ => rfl
  | .arr [], _, fuel + 1, _, _, depth + 1, _, _ => (if_pos (Nat.le_add_left 1 depth)).symm
  | .arr (item :: items), h, fuel + 1, level, hfuel, depth, rest, _ => by
    have hlength := congrArg List.length (indented_arr level item items [])
    simp only [List.append_nil, List.length_cons, List.length_append, List.length_nil] at hlength
    obtain ⟨c, more, hhead, hspace, hclosing⟩ := head_indented h.1 (level + 1)
    have htext : itemsText (level + 1) (item :: items) =
        c :: (more ++ indentedItems (level + 1) items) := by
      rw [itemsText, hhead, List.cons_append]
    rw [indented_arr]
    cases depth with
    | zero => rfl
    | succ depth =>
      have hitems := readItems?_indented (item :: items) h (List.cons_ne_nil _ _)
        fuel (level + 1) level (by omega) depth rest
      rw [htext, List.cons_append] at hitems ⊢
      rw [readValue?_items hspace hclosing, hitems]
      simp only [depth_arr_le]
      split <;> rfl
  | .obj [], _, fuel + 1, _, _, 0, _, _ => rfl
  | .obj [], _, fuel + 1, _, _, depth + 1, _, _ => (if_pos (Nat.le_add_left 1 depth)).symm
  | .obj (field :: fields), h, fuel + 1, level, hfuel, depth, rest, _ => by
    have hlength := congrArg List.length (indented_obj level field fields [])
    simp only [List.append_nil, List.length_cons, List.length_append, List.length_nil] at hlength
    obtain ⟨more, htext⟩ : ∃ more, fieldsText (level + 1) (field :: fields) = '"' :: more :=
      ⟨_, rfl⟩
    rw [indented_obj]
    cases depth with
    | zero => rfl
    | succ depth =>
      have hfields := readFields?_indented (field :: fields) h (List.cons_ne_nil _ _)
        fuel (level + 1) level (by omega) depth rest
      rw [htext, List.cons_append] at hfields ⊢
      rw [readValue?_fields, hfields]
      simp only [depth_obj_le]
      split <;> rfl

/-- The items of a list up to its closing bracket. -/
theorem readItems?_indented : (items : List Json) → ItemsRoundTrip items → items ≠ [] →
    ∀ (fuel level outer : Nat),
    2 * ((itemsText level items).length + (newLine outer).length + 1) < fuel →
    ∀ (depth : Nat) (after : List Char),
      readItems? fuel depth (itemsText level items ++ (newLine outer ++ ']' :: after)) =
        if itemsDepth items ≤ depth then some (items, after) else none
  | [], _, hne, _, _, _, _, _, _ => absurd rfl hne
  | item :: rest, h, _, fuel + 1, level, outer, hfuel, depth, after => by
    have hlength : (itemsText level (item :: rest)).length =
        (item.indented level).length + (indentedItems level rest).length := List.length_append
    have hitem := readValue?_indented item h.1 fuel level (by omega) depth
      (delimited_items level outer rest after)
    rw [itemsText, List.append_assoc, readItems?, hitem]
    simp only [itemsDepth_cons_le]
    by_cases hdepth : item.depth ≤ depth
    · simp only [hdepth, if_true, true_and]
      cases rest with
      | nil =>
        simp only [indentedItems, List.nil_append, skipSpace_newLine,
          skipSpace_cons (show isSpace ']' = false from rfl), itemsDepth, Nat.zero_le, if_true]
      | cons next rest =>
        rw [indentedItems_cons, List.length_cons, List.length_append] at hlength
        have hrest := readItems?_indented (next :: rest) h.2 (List.cons_ne_nil _ _)
          fuel level outer (by omega) depth after
        rw [indentedItems_cons, List.cons_append, List.append_assoc]
        simp only [skipSpace_cons (show isSpace ',' = false from rfl), readItems?_newLine, hrest]
        split <;> rfl
    · simp only [hdepth, if_false, false_and]

/-- The fields of an object up to its closing brace. -/
theorem readFields?_indented : (fields : List (String × Json)) → FieldsRoundTrip fields →
    fields ≠ [] → ∀ (fuel level outer : Nat),
    2 * ((fieldsText level fields).length + (newLine outer).length + 1) < fuel →
    ∀ (depth : Nat) (after : List Char),
      readFields? fuel depth (fieldsText level fields ++ (newLine outer ++ '\x7d' :: after)) =
        if fieldsDepth fields ≤ depth then some (fields, after) else none
  | [], _, hne, _, _, _, _, _, _ => absurd rfl hne
  | (name, value) :: rest, h, _, fuel + 1, level, outer, hfuel, depth, after => by
    have hlength : (fieldsText level ((name, value) :: rest)).length =
        (writeString name).length + ((value.indented level).length + 2) +
          (indentedFields level rest).length := by
      simp only [fieldsText, List.length_append, List.length_cons]
    have hvalue := readValue?_indented value h.1 fuel level (by omega) depth
      (delimited_fields level outer rest after)
    rw [fieldsText, List.append_assoc, List.append_assoc, List.cons_append, readFields?,
      readName?_written]
    simp only [List.cons_append, readValue?_space, hvalue, fieldsDepth_cons_le]
    by_cases hdepth : value.depth ≤ depth
    · simp only [hdepth, if_true, true_and]
      cases rest with
      | nil =>
        simp only [indentedFields, List.nil_append, skipSpace_newLine,
          skipSpace_cons (show isSpace '\x7d' = false from rfl), fieldsDepth, Nat.zero_le, if_true]
      | cons next rest =>
        rw [indentedFields_cons, List.length_cons, List.length_append] at hlength
        have hrest := readFields?_indented (next :: rest) h.2 (List.cons_ne_nil _ _)
          fuel level outer (by omega) depth after
        rw [indentedFields_cons, List.cons_append, List.append_assoc]
        simp only [skipSpace_cons (show isSpace ',' = false from rfl), readFields?_newLine, hrest]
        split <;> rfl
    · simp only [hdepth, if_false, false_and]

end

/-! ## Objects of which fields are wanted -/

theorem readWanted?_newLine (wanted : String → Bool) (fuel level : Nat) (cs : List Char) :
    readWanted? wanted fuel (newLine level ++ cs) = readWanted? wanted fuel cs := by
  cases fuel with
  | zero => rfl
  | succ fuel => rw [readWanted?, readWanted?, readName?, readName?, skipSpace_newLine]

/-- Fields that are all wanted are read from their text unless one is nested too deep. -/
theorem readWanted?_fieldsText {wanted : String → Bool} {fields : List (String × Json)}
    (h : FieldsRoundTrip fields) (hwanted : ∀ field ∈ fields, wanted field.1 = true)
    (hne : fields ≠ []) (fuel : Nat) (hfuel : fields.length ≤ fuel) (level outer : Nat)
    (after : List Char) :
    readWanted? wanted fuel (fieldsText level fields ++ (newLine outer ++ '\x7d' :: after)) =
      if fieldsDepth fields ≤ depthLimit - 1 then some (fields, after) else none := by
  induction fields generalizing fuel with
  | nil => exact absurd rfl hne
  | cons field rest ih =>
    obtain ⟨name, value⟩ := field
    obtain ⟨fuel, rfl⟩ : ∃ n, fuel = n + 1 := ⟨fuel - 1, by simp at hfuel; omega⟩
    have hvalue := fun fuel hlt => readValue?_indented value h.1 fuel level hlt
      (depthLimit - 1) (delimited_fields level outer rest after)
    rw [fieldsText, List.append_assoc, List.append_assoc, List.cons_append, readWanted?,
      readName?_written]
    simp only [Option.bind_eq_bind, Option.bind_some, hwanted _ List.mem_cons_self, if_true,
      List.cons_append, readValue?_space, fieldsDepth_cons_le]
    rw [hvalue _ (by simp only [readingFuel, List.length_append, List.length_cons]; omega)]
    by_cases hdepth : value.depth ≤ depthLimit - 1
    · simp only [hdepth, if_true, true_and, Option.map_some, Option.bind_some]
      cases rest with
      | nil =>
        simp only [indentedFields, List.nil_append, skipSpace_newLine,
          skipSpace_cons (show isSpace '\x7d' = false from rfl), fieldsDepth, Nat.zero_le, if_true]
      | cons next rest =>
        have hrest := ih h.2 (fun field hfield => hwanted field (List.mem_cons_of_mem _ hfield))
          (List.cons_ne_nil _ _) fuel (by simpa using hfuel)
        rw [indentedFields_cons, List.cons_append, List.append_assoc]
        simp only [skipSpace_cons (show isSpace ',' = false from rfl), readWanted?_newLine, hrest]
        split <;> rfl
    · simp only [hdepth, if_false, false_and, Option.map_none, Option.bind_none]

theorem length_le_fieldsText (level : Nat) (fields : List (String × Json)) :
    fields.length ≤ (fieldsText level fields).length := by
  induction fields with
  | nil => exact Nat.le_refl 0
  | cons field rest ih =>
    have hrest : rest.length ≤ (indentedFields level rest).length := by
      cases rest with
      | nil => exact Nat.le_refl 0
      | cons next rest =>
        rw [indentedFields_cons]
        simp only [List.length_cons, List.length_append] at ih ⊢
        omega
    simp only [fieldsText, List.length_cons, List.length_append]
    omega

/-- The text of an object of which all fields are wanted is read as that object, if that is not
nested too deep. -/
theorem parseWanted?_pretty {wanted : String → Bool} {field : String × Json}
    {fields : List (String × Json)} (h : FieldsRoundTrip (field :: fields))
    (hwanted : ∀ other ∈ field :: fields, wanted other.1 = true) :
    parseWanted? wanted ((obj (field :: fields)).pretty ++ "\n") =
      if (obj (field :: fields)).depth ≤ depthLimit then some (obj (field :: fields))
      else none := by
  obtain ⟨more, htext⟩ : ∃ more, fieldsText 1 (field :: fields) = '"' :: more := ⟨_, rfl⟩
  have hlist : ((obj (field :: fields)).pretty ++ "\n").toList =
      '\x7b' ::
        (newLine 1 ++ (fieldsText 1 (field :: fields) ++ (newLine 0 ++ ['\x7d', '\n']))) := by
    rw [String.toList_append, pretty, String.toList_ofList]
    exact indented_obj 0 field fields ['\n']
  have hlength := length_le_fieldsText 1 (field :: fields)
  have hfields := fun fuel hfuel => readWanted?_fieldsText h hwanted (List.cons_ne_nil _ _)
    fuel hfuel 1 0 ['\n']
  rw [htext, List.cons_append] at hlist hfields
  rw [htext] at hlength
  rw [parseWanted?, hlist, skipSpace_cons rfl]
  simp only [skipSpace_newLine, skipSpace_cons (show isSpace '"' = false from rfl)]
  split
  · rename_i heq
    cases heq
  · rw [hfields _ (by simp only [List.length_cons, List.length_append] at hlength ⊢; omega)]
    have hdepth : (obj (field :: fields)).depth ≤ depthLimit ↔
        fieldsDepth (field :: fields) ≤ depthLimit - 1 := depth_obj_le
    simp only [hdepth]
    by_cases hle : fieldsDepth (field :: fields) ≤ depthLimit - 1
    · rw [if_pos hle, if_pos hle]
      rfl
    · rw [if_neg hle, if_neg hle]

end DialogueFlow.Json
