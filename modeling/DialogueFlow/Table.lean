/-
  Tables from names to values, kept as a list in ascending order of the names. Two sorted tables
  with the same entries are equal, and listing a table lists it by name.
-/

namespace DialogueFlow

/-- Entries by name; every operation here keeps the names ascending. -/
abbrev Table (α : Type) := List (String × α)

namespace Table

variable {α β : Type}

/-- The value of a name. -/
def get? : Table α → String → Option α
  | [], _ => none
  | (name, value) :: rest, wanted => if name = wanted then some value else get? rest wanted

/-- Sets the value of a name. -/
def insert : Table α → String → α → Table α
  | [], name, value => [(name, value)]
  | (name', value') :: rest, name, value =>
    if name < name' then (name, value) :: (name', value') :: rest
    else if name' = name then (name, value) :: rest
    else (name', value') :: insert rest name value

/-- Whether the table has an entry of this name. -/
def contains (table : Table α) (name : String) : Bool := (table.get? name).isSome

/-- The table of these entries; the last entry of a name counts. -/
def ofEntries (entries : List (String × α)) : Table α :=
  entries.foldl (fun table entry => table.insert entry.1 entry.2) []

/-- The table with every value mapped. -/
def mapValues (f : α → β) (table : Table α) : Table β :=
  List.map (fun entry => (entry.1, f entry.2)) table

/-- The names of a table, ascending. -/
def names (table : Table α) : List String := List.map (·.1) table

/-- The names ascend, so no name occurs twice. -/
def Sorted (table : Table α) : Prop := List.Pairwise (fun a b => a.1 < b.1) table

theorem get?_insert (table : Table α) (name wanted : String) (value : α) :
    (table.insert name value).get? wanted = if name = wanted then some value else table.get? wanted := by
  induction table with
  | nil => simp [insert, get?]
  | cons entry rest ih =>
    obtain ⟨name', value'⟩ := entry
    unfold insert
    split
    · simp [get?]
    · split
      · rename_i h
        subst h
        by_cases h : name' = wanted <;> simp [get?, h]
      · rename_i hne
        by_cases h : name' = wanted
        · subst h
          simp [get?, Ne.symm hne]
        · simp [get?, h, ih]

theorem get?_insert_self (table : Table α) (name : String) (value : α) :
    (table.insert name value).get? name = some value := by
  simp [get?_insert]

/-- A value that is set again is the later one. -/
theorem insert_insert (table : Table α) (name : String) (value later : α) :
    (table.insert name value).insert name later = table.insert name later := by
  have hself : ∀ rest : Table α, insert ((name, value) :: rest) name later = (name, later) :: rest :=
    fun rest => by rw [insert, if_neg (String.lt_irrefl name), if_pos rfl]
  induction table with
  | nil => exact hself []
  | cons entry rest ih =>
    obtain ⟨head, first⟩ := entry
    by_cases hlt : name < head
    · simp only [insert, if_pos hlt, if_neg (String.lt_irrefl name), if_true]
    · by_cases heq : head = name
      · subst heq
        simp only [insert, if_neg hlt, if_true]
      · simp only [insert, if_neg hlt, if_neg heq, ih]

/-- Values of different names may be set in either order. -/
theorem insert_comm (table : Table α) {first second : String} (hne : first ≠ second)
    (value other : α) :
    (table.insert first value).insert second other =
      (table.insert second other).insert first value := by
  have hordered : ∀ (table : Table α) {low high : String} (value other : α), low < high →
      (table.insert low value).insert high other = (table.insert high other).insert low value := by
    intro table low high value other hlt
    have hnot : ¬ high < low := fun h => String.lt_irrefl _ (String.lt_trans hlt h)
    have hne : low ≠ high := fun h => String.lt_irrefl _ (h ▸ hlt)
    induction table with
    | nil => simp only [insert, if_neg hnot, if_neg hne, if_pos hlt]
    | cons entry rest ih =>
      obtain ⟨head, held⟩ := entry
      by_cases hlow : low < head
      · by_cases hhigh : high < head
        · simp only [insert, if_pos hlow, if_pos hhigh, if_neg hnot, if_neg hne, if_pos hlt]
        · by_cases heq : head = high
          · simp only [insert, if_pos hlow, if_neg hhigh, if_pos heq, if_neg hnot, if_neg hne,
              if_pos hlt]
          · simp only [insert, if_pos hlow, if_neg hhigh, if_neg heq, if_neg hnot, if_neg hne]
      · have hhigh : ¬ high < head := fun h => hlow (String.lt_trans hlt h)
        by_cases heq : head = low
        · subst heq
          simp only [insert, if_neg hlow, if_neg hhigh, if_neg hne, if_true]
        · by_cases heq' : head = high
          · subst heq'
            exact absurd hlt hlow
          · simp only [insert, if_neg hlow, if_neg hhigh, if_neg heq, if_neg heq', ih]
  rcases Std.lt_trichotomy first second with hlt | heq | hgt
  · exact hordered table value other hlt
  · exact absurd heq hne
  · exact (hordered table other value hgt).symm

theorem get?_mapValues (f : α → β) (table : Table α) (name : String) :
    get? (table.mapValues f) name = (get? table name).map f := by
  induction table with
  | nil => rfl
  | cons entry rest ih =>
    obtain ⟨head, value⟩ := entry
    by_cases h : head = name
    · simp [mapValues, get?, h]
    · simpa [mapValues, get?, h] using ih

theorem get?_filter (keep : String → Bool) (table : Table α) (name : String) :
    get? (List.filter (fun entry => keep entry.1) table) name =
      if keep name then get? table name else none := by
  induction table with
  | nil => simp [get?]
  | cons entry rest ih =>
    obtain ⟨head, value⟩ := entry
    by_cases h : head = name
    · subst h
      cases hkeep : keep head <;> simp [get?, hkeep, ih]
    · cases hkeep : keep head <;> simp [get?, hkeep, h, ih]

theorem mem_of_get? {table : Table α} {name : String} {value : α}
    (h : table.get? name = some value) : (name, value) ∈ table := by
  induction table with
  | nil => cases h
  | cons entry rest ih =>
    obtain ⟨head, first⟩ := entry
    unfold get? at h
    split at h
    · rename_i heq
      cases h
      subst heq
      exact List.mem_cons_self
    · exact List.mem_cons_of_mem _ (ih h)

/-- In a table without repeated names every entry is the one of its name. -/
theorem get?_of_mem {table : Table α} (h : table.names.Nodup) {name : String} {value : α}
    (hentry : (name, value) ∈ table) : table.get? name = some value := by
  induction table with
  | nil => cases hentry
  | cons entry rest ih =>
    obtain ⟨head, first⟩ := entry
    obtain ⟨hhead, hrest⟩ := List.nodup_cons.mp h
    rcases List.mem_cons.mp hentry with heq | hentry
    · cases heq
      exact if_pos rfl
    · have hname : name ∈ names rest := List.mem_map.mpr ⟨_, hentry, rfl⟩
      have hne : head ≠ name := by
        rintro rfl
        exact hhead hname
      rw [get?, if_neg hne]
      exact ih hrest hentry

/-- In a table without repeated names only one entry has a name. -/
theorem filter_eq_singleton {table : Table α} (h : table.names.Nodup) {name : String} {value : α}
    (hvalue : table.get? name = some value) :
    List.filter (·.1 = name) table = [(name, value)] := by
  induction table with
  | nil => cases hvalue
  | cons entry rest ih =>
    obtain ⟨head, first⟩ := entry
    obtain ⟨hhead, hrest⟩ := List.nodup_cons.mp h
    unfold get? at hvalue
    by_cases heq : head = name
    · subst heq
      rw [if_pos rfl, Option.some.injEq] at hvalue
      have hnone : List.filter (·.1 = head) rest = [] := by
        refine List.filter_eq_nil_iff.mpr fun entry hentry heq => hhead ?_
        exact List.mem_map.mpr ⟨entry, hentry, of_decide_eq_true heq⟩
      rw [List.filter_cons_of_pos (by simp), hnone, hvalue]
    · rw [if_neg heq] at hvalue
      rw [List.filter_cons_of_neg (by simpa using heq)]
      exact ih hrest hvalue

theorem mem_insert {table : Table α} {name : String} {value : α} {entry : String × α}
    (h : entry ∈ table.insert name value) : entry = (name, value) ∨ entry ∈ table := by
  induction table with
  | nil => simpa [insert] using h
  | cons head rest ih =>
    obtain ⟨name', value'⟩ := head
    unfold insert at h
    split at h
    · simpa using h
    · split at h
      · rcases List.mem_cons.mp h with h | h
        · exact Or.inl h
        · exact Or.inr (List.mem_cons_of_mem _ h)
      · rcases List.mem_cons.mp h with h | h
        · exact Or.inr (h ▸ List.mem_cons_self)
        · rcases ih h with h | h
          · exact Or.inl h
          · exact Or.inr (List.mem_cons_of_mem _ h)

/-- Setting a value adds its name. -/
theorem mem_names_insert (table : Table α) (name : String) (value : α) (other : String) :
    other ∈ (table.insert name value).names ↔ other = name ∨ other ∈ table.names := by
  induction table with
  | nil => simp [insert, names]
  | cons head rest ih =>
    obtain ⟨name', value'⟩ := head
    unfold names at ih ⊢
    unfold insert
    split
    · simp
    · split
      · rename_i heq
        simp [heq]
      · rw [List.map_cons, List.mem_cons, ih, List.map_cons, List.mem_cons]
        exact or_left_comm

/-- A table has the names of its entries. -/
theorem mem_names_ofEntries (entries : List (String × α)) (name : String) :
    name ∈ (ofEntries entries).names ↔ name ∈ entries.map (·.1) := by
  have hfold : ∀ table : Table α,
      name ∈ names (entries.foldl (fun table entry => table.insert entry.1 entry.2) table) ↔
        name ∈ entries.map (·.1) ∨ name ∈ table.names := by
    induction entries with
    | nil => simp
    | cons entry rest ih =>
      intro table
      rw [List.foldl_cons, ih, mem_names_insert, List.map_cons, List.mem_cons, ← or_assoc,
        or_comm (a := name ∈ rest.map (·.1))]
  have hempty := hfold []
  simpa [names, ofEntries] using hempty

/-- Setting a value keeps the names ascending. -/
theorem sorted_insert {table : Table α} (h : table.Sorted) (name : String) (value : α) :
    (table.insert name value).Sorted := by
  induction table with
  | nil => simp [insert, Sorted]
  | cons head rest ih =>
    obtain ⟨name', value'⟩ := head
    obtain ⟨hhead, hrest⟩ := List.pairwise_cons.mp h
    unfold insert
    split
    · rename_i hlt
      refine List.pairwise_cons.mpr ⟨?_, h⟩
      intro entry hentry
      rcases List.mem_cons.mp hentry with rfl | hentry
      · exact hlt
      · exact String.lt_trans hlt (hhead entry hentry)
    · rename_i hnlt
      split
      · rename_i heq
        subst heq
        exact List.pairwise_cons.mpr ⟨hhead, hrest⟩
      · rename_i hne
        refine List.pairwise_cons.mpr ⟨?_, ih hrest⟩
        intro entry hentry
        rcases mem_insert hentry with rfl | hentry
        · rcases Std.lt_trichotomy name' name with h | h | h
          · exact h
          · exact absurd h hne
          · exact absurd h hnlt
        · exact hhead entry hentry

/-- No name of a sorted table is repeated. -/
theorem nodup_names {table : Table α} (h : table.Sorted) : table.names.Nodup := by
  refine List.pairwise_map.mpr (List.Pairwise.imp ?_ h)
  intro first second hlt heq
  rw [heq] at hlt
  exact String.lt_irrefl _ hlt

/-- The entries of a sorted table are those that look-ups find. -/
theorem mem_iff_get? {table : Table α} (h : table.Sorted) {name : String} {value : α} :
    (name, value) ∈ table ↔ table.get? name = some value :=
  ⟨get?_of_mem (nodup_names h), mem_of_get?⟩

theorem sorted_mapValues {table : Table α} (h : table.Sorted) (f : α → β) :
    (table.mapValues f).Sorted := List.pairwise_map.mpr h

theorem mem_ofEntries {entries : List (String × α)} {entry : String × α}
    (h : entry ∈ ofEntries entries) : entry ∈ entries := by
  have hfold : ∀ table : Table α,
      entry ∈ entries.foldl (fun table entry => table.insert entry.1 entry.2) table →
        entry ∈ entries ∨ entry ∈ table := by
    clear h
    induction entries with
    | nil => exact fun _ => Or.inr
    | cons head rest ih =>
      intro table hentry
      rcases ih (table.insert head.1 head.2) hentry with hrest | hinsert
      · exact Or.inl (List.mem_cons_of_mem _ hrest)
      · rcases mem_insert hinsert with rfl | htable
        · exact Or.inl List.mem_cons_self
        · exact Or.inr htable
  rcases hfold [] h with hentry | hnil
  · exact hentry
  · cases hnil

/-- The table of some entries is sorted. -/
theorem sorted_ofEntries (entries : List (String × α)) : (ofEntries entries).Sorted := by
  have hfold : ∀ table : Table α, table.Sorted →
      Sorted (entries.foldl (fun table entry => table.insert entry.1 entry.2) table) := by
    induction entries with
    | nil => exact fun _ h => h
    | cons head rest ih => exact fun table h => ih _ (sorted_insert h head.1 head.2)
  exact hfold [] List.Pairwise.nil

theorem insert_of_lt {table : Table α} {name : String}
    (h : ∀ entry ∈ table, entry.1 < name) (value : α) :
    table.insert name value = table ++ [(name, value)] := by
  induction table with
  | nil => rfl
  | cons entry rest ih =>
    have hlt : entry.1 < name := h entry List.mem_cons_self
    have hnot : ¬ name < entry.1 := fun h' => String.lt_irrefl _ (String.lt_trans hlt h')
    have hne : entry.1 ≠ name := fun heq => String.lt_irrefl _ (heq ▸ hlt)
    have hrest : insert rest name value = rest ++ [(name, value)] :=
      ih fun other hother => h other (List.mem_cons_of_mem _ hother)
    rw [insert, if_neg hnot, if_neg hne, hrest]
    rfl

/-- A sorted table is the table of its entries. -/
theorem ofEntries_of_sorted {table : Table α} (h : table.Sorted) : ofEntries table = table := by
  have hfold : ∀ before : Table α, Sorted (before ++ table) →
      table.foldl (fun table entry => insert table entry.1 entry.2) before = before ++ table := by
    clear h
    induction table with
    | nil => exact fun before _ => (List.append_nil before).symm
    | cons entry rest ih =>
      intro before hsorted
      have hbefore : ∀ other ∈ before, other.1 < entry.1 := fun other hother =>
        (List.pairwise_append.mp hsorted).2.2 other hother entry List.mem_cons_self
      have happend : before ++ entry :: rest = (before ++ [entry]) ++ rest := by simp
      rw [List.foldl_cons, insert_of_lt hbefore, happend]
      rw [happend] at hsorted
      exact ih _ hsorted
  exact hfold [] h

end Table

end DialogueFlow
