/-
  The object of a TOML text is normal (`isNormal_of_parse?`), since every change of a document goes
  through `insert`, which keeps the keys of a table ascending: `Tidy` holds of the empty document and
  is kept by each change, whether or not it leads through other tables.
-/
import DialogueFlow.Proofs.Json.Normal
import DialogueFlow.Toml.Parser
import Mathlib.Tactic.Common

namespace DialogueFlow.Toml

open Json (IsNormal)

mutual

/-- The keys of every table in the node ascend, and its values are normal. -/
def Node.Tidy : Node → Prop
  | .value value => value.IsNormal
  | .table _ entries => Table.Sorted entries ∧ EntriesTidy entries
  | .tables closed entries =>
    (∀ value ∈ closed, IsNormal value) ∧ Table.Sorted entries ∧ EntriesTidy entries

/-- The nodes of the entries are tidy. -/
def EntriesTidy : List (String × Node) → Prop
  | [] => True
  | (_, node) :: rest => node.Tidy ∧ EntriesTidy rest

end

theorem entriesTidy_iff {entries : List (String × Node)} :
    EntriesTidy entries ↔ ∀ entry ∈ entries, entry.2.Tidy := by
  induction entries with
  | nil => simp [EntriesTidy]
  | cons entry rest ih => rw [EntriesTidy, ih, List.forall_mem_cons]

/-- The keys of every table in the document ascend, and its values are normal. -/
def Document.Tidy (document : Document) : Prop := Table.Sorted document ∧ EntriesTidy document

theorem names_entriesJson (entries : List (String × Node)) :
    (entriesJson entries).map (·.1) = entries.map (·.1) := by
  induction entries with
  | nil => rfl
  | cons entry rest ih => rw [entriesJson, List.map_cons, List.map_cons, ih]

theorem sorted_entriesJson {entries : List (String × Node)} (h : Table.Sorted entries) :
    Table.Sorted (entriesJson entries) := by
  have hnames : (entries.map (·.1)).Pairwise (· < ·) := List.pairwise_map.mpr h
  rw [← names_entriesJson] at hnames
  exact List.pairwise_map.mp hnames

mutual

/-- The value of a tidy node is normal. -/
theorem isNormal_toJson : (node : Node) → node.Tidy → node.toJson.IsNormal
  | .value _, h => h
  | .table _ entries, h => ⟨sorted_entriesJson h.1, fieldsNormal_entriesJson entries h.2⟩
  | .tables closed entries, h => by
    rw [Node.toJson, Json.isNormal_arr, List.forall_mem_append, List.forall_mem_singleton]
    exact ⟨h.1, sorted_entriesJson h.2.1, fieldsNormal_entriesJson entries h.2.2⟩

theorem fieldsNormal_entriesJson : (entries : List (String × Node)) → EntriesTidy entries →
    Json.FieldsNormal (entriesJson entries)
  | [], _ => trivial
  | (_, node) :: rest, h => ⟨isNormal_toJson node h.1, fieldsNormal_entriesJson rest h.2⟩

end

/-! ## Changes of a document -/

namespace Document

variable {document document' : Document} {key : String}

theorem tidy_nil : Tidy [] := ⟨List.Pairwise.nil, trivial⟩

theorem Tidy.isNormal (h : document.Tidy) : document.toJson.IsNormal :=
  ⟨sorted_entriesJson h.1, fieldsNormal_entriesJson document h.2⟩

theorem Tidy.insert (h : document.Tidy) {node : Node} (hnode : node.Tidy) :
    Tidy (Table.insert document key node) := by
  refine ⟨Table.sorted_insert h.1 key node, entriesTidy_iff.mpr fun entry hentry => ?_⟩
  rcases Table.mem_insert hentry with rfl | hentry
  · exact hnode
  · exact entriesTidy_iff.mp h.2 entry hentry

theorem Tidy.of_get? (h : document.Tidy) {node : Node}
    (hnode : Table.get? document key = some node) : node.Tidy :=
  entriesTidy_iff.mp h.2 _ (Table.mem_of_get? hnode)

/-- A change of an inner table keeps the document tidy if it keeps the inner table tidy. -/
theorem Tidy.within {change : Document → Option Document}
    (hchange : ∀ inner inner', Tidy inner → change inner = some inner' → Tidy inner')
    {path : List String} (h : document.Tidy)
    (hwithin : within change path document = some document') :
    document'.Tidy := by
  induction path generalizing document document' with
  | nil => exact hchange _ _ h hwithin
  | cons key rest ih =>
    rw [Document.within] at hwithin
    split at hwithin
    · obtain ⟨inner, hinner, rfl⟩ := Option.map_eq_some_iff.mp hwithin
      exact h.insert (ih tidy_nil hinner)
    · rename_i hnode
      obtain ⟨inner, hinner, rfl⟩ := Option.map_eq_some_iff.mp hwithin
      exact h.insert (ih (h.of_get? hnode) hinner)
    · rename_i hnode
      obtain ⟨inner, hinner, rfl⟩ := Option.map_eq_some_iff.mp hwithin
      exact h.insert ⟨(h.of_get? hnode).1, ih (h.of_get? hnode).2 hinner⟩
    · cases hwithin

theorem Tidy.openTable (h : document.Tidy) (hopen : openTable key document = some document') :
    document'.Tidy := by
  unfold Document.openTable at hopen
  split at hopen
  · cases hopen
    exact h.insert tidy_nil
  · rename_i hnode
    cases hopen
    obtain ⟨hsorted, hentries⟩ := h.of_get? hnode
    exact h.insert ⟨hsorted, hentries⟩
  · cases hopen

theorem Tidy.appendTable (h : document.Tidy) (happend : appendTable key document = some document') :
    document'.Tidy := by
  unfold Document.appendTable at happend
  split at happend
  · cases happend
    exact h.insert ⟨(fun _ hvalue => nomatch hvalue), tidy_nil⟩
  · rename_i hnode
    cases happend
    obtain ⟨hclosed, hinner⟩ := h.of_get? hnode
    refine h.insert ⟨List.forall_mem_append.mpr ⟨hclosed, ?_⟩, tidy_nil⟩
    exact List.forall_mem_singleton.mpr (Tidy.isNormal hinner)
  · cases happend

theorem Tidy.assign {value : Json} (hvalue : value.IsNormal) {path : List String}
    (h : document.Tidy) (hassign : assign value path document = some document') :
    document'.Tidy := by
  induction path generalizing document document' with
  | nil => cases hassign
  | cons key rest ih =>
    cases rest with
    | nil =>
      rw [Document.assign] at hassign
      split at hassign
      · cases hassign
        exact h.insert hvalue
      · cases hassign
    | cons next rest =>
      rw [Document.assign] at hassign
      split at hassign
      · obtain ⟨inner, hinner, rfl⟩ := Option.map_eq_some_iff.mp hassign
        exact h.insert (ih tidy_nil hinner)
      · rename_i hnode
        obtain ⟨inner, hinner, rfl⟩ := Option.map_eq_some_iff.mp hassign
        exact h.insert (ih (h.of_get? hnode) hinner)
      · rename_i hnode
        split at hassign
        · cases hassign
        · obtain ⟨inner, hinner, rfl⟩ := Option.map_eq_some_iff.mp hassign
          exact h.insert (ih (h.of_get? hnode) hinner)
      · rename_i hnode
        split at hassign
        · cases hassign
        · obtain ⟨inner, hinner, rfl⟩ := Option.map_eq_some_iff.mp hassign
          exact h.insert ⟨(h.of_get? hnode).1, ih (h.of_get? hnode).2 hinner⟩
      · cases hassign

end Document

/-! ## Reading -/

theorem isNormal_of_ofInt? {n : Int} {value : Json} (h : ofInt? n = some value) :
    value.IsNormal := by
  unfold ofInt? at h
  split at h
  · cases h
    trivial
  · cases h

theorem isNormal_of_ofFloat? {negative : Bool} {cs : List Char} {value : Json}
    (h : ofFloat? negative cs = some value) : value.IsNormal := by
  unfold ofFloat? at h
  obtain ⟨whole, -, h⟩ := Option.bind_eq_some_iff.mp h
  dsimp only at h
  split at h
  all_goals
    obtain ⟨fraction, -, h⟩ := Option.bind_eq_some_iff.mp h
    obtain ⟨exponent, -, h⟩ := Option.bind_eq_some_iff.mp h
    obtain ⟨-, h⟩ := Option.ite_none_left_eq_some.mp h
    cases h
    trivial

theorem isNormal_of_ofNumber? {cs : List Char} {value : Json} (h : ofNumber? cs = some value) :
    value.IsNormal := by
  have hradix : ∀ {base : Nat} {rest : List Char}, ofRadix? base rest = some value →
      value.IsNormal := by
    intro base rest h
    unfold ofRadix? at h
    split at h
    · exact isNormal_of_ofInt? h
    · cases h
  unfold ofNumber? at h
  split at h
  · exact hradix h
  · exact hradix h
  · exact hradix h
  · unfold ofDecimal? at h
    dsimp only at h
    split at h
    · cases h
      trivial
    · split at h
      · exact isNormal_of_ofInt? h
      · exact isNormal_of_ofFloat? h

/-- The value of a word has no parts but, if it is a date or time, its text. -/
theorem isNormal_of_ofWord? {cs : List Char} {value : Json} (h : ofWord? cs = some value) :
    value.IsNormal := by
  unfold ofWord? at h
  split at h
  · cases h
    trivial
  · split at h
    · cases h
      trivial
    · split at h
      · cases h
        exact ⟨List.pairwise_singleton _ _, trivial, trivial⟩
      · exact isNormal_of_ofNumber? h

/-- Readers with this fuel give values that are normal, and fields that keep a document tidy. -/
structure ReadersTidy (fuel : Nat) : Prop where
  value : ∀ {depth cs value rest}, readValue? fuel depth cs = some (value, rest) → value.IsNormal
  items : ∀ {depth cs items rest}, readItems? fuel depth cs = some (items, rest) →
    ∀ item ∈ items, IsNormal item
  fields : ∀ {depth document cs document' rest}, Document.Tidy document →
    readFields? fuel depth document cs = some (document', rest) → Document.Tidy document'

section

variable {fuel depth : Nat} {cs rest : List Char}

theorem ReadersTidy.value_succ (less : ReadersTidy fuel) {value : Json}
    (h : readValue? (fuel + 1) depth cs = some (value, rest)) : value.IsNormal := by
  rw [readValue?.eq_def] at h
  dsimp only at h
  split at h
  · obtain ⟨found, hfound, heq⟩ := Option.map_eq_some_iff.mp h
    cases heq
    exact Json.isNormal_arr.mpr (less.items hfound)
  · obtain ⟨found, hfound, heq⟩ := Option.map_eq_some_iff.mp h
    cases heq
    exact (less.fields Document.tidy_nil hfound).isNormal
  · cases h
  · cases h
  · obtain ⟨found, -, heq⟩ := Option.map_eq_some_iff.mp h
    cases heq
    trivial
  · obtain ⟨found, -, heq⟩ := Option.map_eq_some_iff.mp h
    cases heq
    trivial
  · obtain ⟨found, hfound, heq⟩ := Option.map_eq_some_iff.mp h
    cases heq
    exact isNormal_of_ofWord? hfound

theorem ReadersTidy.items_succ (less : ReadersTidy fuel) {items : List Json}
    (h : readItems? (fuel + 1) depth cs = some (items, rest)) : ∀ item ∈ items, IsNormal item := by
  rw [readItems?] at h
  split at h
  · cases h
  · cases h
    exact fun _ hitem => nomatch hitem
  · split at h
    · cases h
    · rename_i hitem
      have hnormal := less.value hitem
      split at h
      · obtain ⟨found, hfound, heq⟩ := Option.map_eq_some_iff.mp h
        cases heq
        exact List.forall_mem_cons.mpr ⟨hnormal, less.items hfound⟩
      · cases h
        exact List.forall_mem_singleton.mpr hnormal
      · cases h

theorem ReadersTidy.fields_succ (less : ReadersTidy fuel) {document document' : Document}
    (hdocument : document.Tidy)
    (h : readFields? (fuel + 1) depth document cs = some (document', rest)) : document'.Tidy := by
  rw [readFields?] at h
  split at h
  · cases h
  · cases h
    exact hdocument
  · split at h
    · cases h
    · split at h
      · cases h
      · rename_i hfield
        split at h
        · cases h
        · rename_i hassign
          have hnext := hdocument.assign (less.value hfield) hassign
          split at h
          · exact less.fields hnext h
          · cases h
            exact hnext
          · cases h

end

theorem readersTidy (fuel : Nat) : ReadersTidy fuel := by
  induction fuel with
  | zero => exact ⟨nofun, nofun, nofun⟩
  | succ fuel ih => exact ⟨ih.value_succ, ih.items_succ, ih.fields_succ⟩

theorem tidy_of_readHeader? {progress progress' : Progress} {cs rest : List Char}
    (hprogress : progress.document.Tidy)
    (h : readHeader? progress cs = some (progress', rest)) : progress'.document.Tidy := by
  unfold readHeader? at h
  dsimp only at h
  split at h
  · split at h
    · obtain ⟨document, hdocument, heq⟩ := Option.map_eq_some_iff.mp h
      cases heq
      exact hprogress.within (fun _ _ => Document.Tidy.appendTable) hdocument
    · obtain ⟨document, hdocument, heq⟩ := Option.map_eq_some_iff.mp h
      cases heq
      exact hprogress.within (fun _ _ => Document.Tidy.openTable) hdocument
    · cases h
  · cases h

theorem tidy_of_readEntry? {progress progress' : Progress} {cs rest : List Char}
    (hprogress : progress.document.Tidy)
    (h : readEntry? progress cs = some (progress', rest)) : progress'.document.Tidy := by
  unfold readEntry? at h
  split at h
  · cases h
  · split at h
    · cases h
    · rename_i hvalue
      obtain ⟨document, hdocument, heq⟩ := Option.map_eq_some_iff.mp h
      cases heq
      have hnormal := (readersTidy _).value hvalue
      exact hprogress.within (fun _ _ => Document.Tidy.assign hnormal) hdocument

theorem tidy_of_readLines? {fuel : Nat} {progress : Progress} {cs : List Char}
    {document : Document} (hprogress : progress.document.Tidy)
    (h : readLines? fuel progress cs = some document) : document.Tidy := by
  induction fuel generalizing progress cs with
  | zero => cases h
  | succ fuel ih =>
    rw [readLines?] at h
    split at h
    · cases h
    · cases h
      exact hprogress
    · dsimp only at h
      split at h
      · cases h
      · rename_i next _ hline
        have hnext : next.document.Tidy := by
          split at hline
          · exact tidy_of_readHeader? hprogress hline
          · exact tidy_of_readEntry? hprogress hline
        split at h
        · exact ih hnext h
        · cases h

/-- The object of a TOML text is normal. -/
theorem isNormal_of_parse? {text : String} {value : Json} (h : parse? text = some value) :
    value.IsNormal := by
  unfold parse? at h
  obtain ⟨document, hdocument, rfl⟩ := Option.map_eq_some_iff.mp h
  exact (tidy_of_readLines? Document.tidy_nil hdocument).isNormal

end DialogueFlow.Toml
