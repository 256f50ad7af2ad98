/-
  What decoders give. A decoder looks only at the parts of a value, so what holds of those carries
  over to what it gives (`Gives`): `Gives.record` for records, `Gives.list` for lists, `Gives.table`
  for tables, and `Gives.tagged` for variants.
-/
import DialogueFlow.Decode.Tagged
import DialogueFlow.Proofs.Json.Nesting

namespace DialogueFlow.Decode

variable {α β : Type} {P P' : Json → Prop} {Q : α → Prop} {R : β → Prop} {decode : Decoder α}

/-- What the decoder gives has `Q` if all parts of the value have `P`. -/
def Gives (P : Json → Prop) (decode : Decoder α) (Q : α → Prop) : Prop :=
  ∀ value a, (∀ part ∈ value.parts, P part) → decode value = .ok a → Q a

theorem ok_of_map {x : Except DecodeError α} {f : α → β} {b : β} (h : x.map f = .ok b) :
    ∃ a, x = .ok a ∧ f a = b := by
  cases x with
  | error cause => cases h
  | ok a => exact ⟨a, rfl, Except.ok.inj h⟩

theorem Gives.map (h : Gives P decode Q) {f : α → β} (hf : ∀ a, Q a → R (f a)) :
    Gives P (fun value => (decode value).map f) R := by
  intro value b hparts hb
  obtain ⟨a, ha, rfl⟩ := ok_of_map hb
  exact hf a (h value a hparts ha)

/-! ## Lists and tables -/

theorem mem_each {items : List Json} {decoded : List α} (h : each decode items = .ok decoded)
    {a : α} (ha : a ∈ decoded) : ∃ item ∈ items, decode item = .ok a := by
  induction items generalizing decoded with
  | nil =>
    cases h
    cases ha
  | cons item rest ih =>
    simp only [each] at h
    split at h
    · cases h
    · rename_i head hhead
      split at h
      · cases h
      · rename_i tail htail
        cases h
        rcases List.mem_cons.mp ha with rfl | ha
        · exact ⟨item, List.mem_cons_self, hhead⟩
        · obtain ⟨found, hfound, hdecode⟩ := ih htail ha
          exact ⟨found, List.mem_cons_of_mem _ hfound, hdecode⟩

theorem mem_list {value : Json} {decoded : List α} (h : list decode value = .ok decoded) {a : α}
    (ha : a ∈ decoded) : ∃ item ∈ value.parts, decode item = .ok a := by
  cases value with
  | arr items => exact mem_each h ha
  | _ => cases h

theorem mem_eachField {fields : List (String × Json)} {entries : List (String × α)}
    (h : eachField decode fields = .ok entries) {entry : String × α} (hentry : entry ∈ entries) :
    ∃ field ∈ fields, decode field.2 = .ok entry.2 := by
  induction fields generalizing entries with
  | nil =>
    cases h
    cases hentry
  | cons field rest ih =>
    obtain ⟨name, value⟩ := field
    simp only [eachField] at h
    split at h
    · cases h
    · rename_i head hhead
      split at h
      · cases h
      · rename_i tail htail
        cases h
        rcases List.mem_cons.mp hentry with rfl | hentry
        · exact ⟨_, List.mem_cons_self, hhead⟩
        · obtain ⟨found, hfound, hdecode⟩ := ih htail hentry
          exact ⟨found, List.mem_cons_of_mem _ hfound, hdecode⟩

theorem Gives.list (hdeeper : ∀ value, P value → ∀ part ∈ value.parts, P' part)
    (h : Gives P' decode Q) : Gives P (list decode) fun as => ∀ a ∈ as, Q a := by
  intro value as hparts hlist a ha
  obtain ⟨item, hitem, hdecode⟩ := mem_list hlist ha
  exact h item a (hdeeper item (hparts item hitem)) hdecode

theorem Gives.table (hdeeper : ∀ value, P value → ∀ part ∈ value.parts, P' part)
    (h : Gives P' decode Q) :
    Gives P (table decode) fun entries => ∀ entry ∈ entries, Q entry.2 := by
  intro value entries hparts htable
  cases value with
  | obj fields =>
    obtain ⟨found, hfound, rfl⟩ := ok_of_map htable
    intro entry hentry
    obtain ⟨field, hfield, hdecode⟩ := mem_eachField hfound (Table.mem_ofEntries hentry)
    exact h field.2 entry.2 (hdeeper _ (hparts _ (List.mem_map_of_mem hfield))) hdecode
  | _ => cases htable

theorem sorted_of_table {value : Json} {entries : Table α} (h : table decode value = .ok entries) :
    entries.Sorted := by
  cases value with
  | obj fields =>
    obtain ⟨found, -, rfl⟩ := ok_of_map h
    exact Table.sorted_ofEntries found
  | _ => cases h

/-! ## Records -/

variable {form : RecordForm α}

theorem setAll_gives
    (hset : ∀ record name value record', Q record → P value →
      form.set record name value = .ok record' → Q record')
    {fields : List (String × Json)} (hfields : ∀ field ∈ fields, P field.2)
    {seen seen' : List String} {record record' : α} (hrecord : Q record)
    (h : form.setAll seen record fields = .ok (seen', record')) : Q record' := by
  induction fields generalizing seen record with
  | nil =>
    cases h
    exact hrecord
  | cons field rest ih =>
    obtain ⟨name, value⟩ := field
    obtain ⟨hvalue, hrest⟩ := List.forall_mem_cons.mp hfields
    rw [RecordForm.setAll] at h
    split at h
    · exact ih hrest hrecord h
    · split at h
      · cases h
      · split at h
        · cases h
        · rename_i hnext
          exact ih hrest (hset _ _ _ _ hrecord hvalue hnext) h

/-- A record has what its blank has and setting a field keeps. -/
theorem Gives.record (hblank : Q form.blank)
    (hset : ∀ record name value record', Q record → P value →
      form.set record name value = .ok record' → Q record') (surplus : Surplus) :
    Gives P (form.decode surplus) Q := by
  intro value record hparts h
  cases value with
  | obj fields =>
    have hfields : ∀ field ∈ fields, P field.2 :=
      fun field hfield => hparts field.2 (List.mem_map_of_mem hfield)
    rw [RecordForm.decode, RecordForm.ofFields] at h
    split at h
    · cases h
    · rename_i hall
      split at h
      · cases h
      · cases h
        exact setAll_gives hset hfields hblank hall
  | arr items =>
    have hitems : ∀ field ∈ form.names.zip items, P field.2 :=
      fun field hfield => hparts field.2 (List.of_mem_zip hfield).2
    rw [RecordForm.decode, RecordForm.ofItems] at h
    split at h
    · cases h
    · rename_i hall
      have hrecord := setAll_gives hset hitems hblank hall
      split at h
      · cases h
      · split at h
        · cases h
          exact hrecord
        · split at h
          · cases h
          · cases h
          · cases h
            exact hrecord
  | _ => cases h

/-- A decoded record has what the record of defaults has and setting a field keeps. -/
theorem RecordForm.decode_invariant
    (hset : ∀ record name value record', Q record →
      form.set record name value = .ok record' → Q record')
    (hblank : Q form.blank) {surplus : Surplus} {value : Json} {record : α}
    (h : form.decode surplus value = .ok record) : Q record :=
  Gives.record (P := fun _ => True) hblank
    (fun record name value record' hrecord _ => hset record name value record' hrecord) surplus
    value record (fun _ _ => trivial) h

/-! ## Variants -/

theorem taggedFields_gives {tag : String} {variant : Json → Except DecodeError (Decoder α)}
    (hvariant : ∀ name decode, variant name = .ok decode → Gives P decode Q)
    {fields : List (String × Json)} (hfields : ∀ field ∈ fields, P field.2) {a : α}
    (h : taggedFields tag variant fields = .ok a) : Q a := by
  unfold taggedFields at h
  split at h
  · cases h
  · split at h
    · cases h
    · rename_i hfound
      split at h
      · refine hvariant _ _ hfound _ a ?_ h
        intro part hpart
        obtain ⟨field, hfield, rfl⟩ := List.mem_map.mp hpart
        exact hfields field (List.mem_filter.mp hfield).1
      · cases h

theorem Gives.tagged {title tag : String} {variant : Json → Except DecodeError (Decoder α)}
    (hvariant : ∀ name decode, variant name = .ok decode → Gives P decode Q) :
    Gives P (tagged title tag variant) Q := by
  intro value a hparts h
  cases value with
  | obj fields =>
    exact taggedFields_gives hvariant
      (fun field hfield => hparts field.2 (List.mem_map_of_mem hfield)) h
  | arr items =>
    cases items with
    | nil => cases h
    | cons name items =>
      rw [Decode.tagged] at h
      split at h
      · cases h
      · rename_i hfound
        have hitems : ∀ part ∈ (Json.arr items).parts, P part :=
          fun part hpart => hparts part (List.mem_cons_of_mem _ hpart)
        exact hvariant _ _ hfound _ a hitems h
  | _ => cases h

theorem Variants.mem_of_byName {variants : Variants α} {name : Json} {decode : Decoder α}
    (h : variants.byName name = .ok decode) : ∃ title, (title, decode) ∈ variants := by
  cases name with
  | str title =>
    rw [byName, named] at h
    split at h
    · rename_i hfound
      cases h
      obtain ⟨before, after, rfl, -⟩ := List.lookup_eq_some_iff.mp hfound
      exact ⟨title, List.mem_append_right _ List.mem_cons_self⟩
    · cases h
  | _ => cases h

theorem Variants.mem_of_byNameOrIndex {variants : Variants α} {name : Json} {decode : Decoder α}
    (h : variants.byNameOrIndex name = .ok decode) : ∃ title, (title, decode) ∈ variants := by
  unfold byNameOrIndex at h
  split at h
  · split at h
    · cases h
    · split at h
      · rename_i hfound
        cases h
        exact ⟨_, List.mem_of_getElem? hfound⟩
      · cases h
  · exact mem_of_byName h

end DialogueFlow.Decode
