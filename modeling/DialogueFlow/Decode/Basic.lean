/-
  Decoders of plain values: texts, truth values, lists, optional values, objects and tables.
-/
import DialogueFlow.Decode.Error

namespace DialogueFlow.Decode

/-- A text. -/
def text : Decoder String
  | .str s => .ok s
  | value => .error (.wrongKind value "a string")

/-- A truth value. -/
def truth : Decoder Bool
  | .bool b => .ok b
  | value => .error (.wrongKind value "a boolean")

/-- Any value, as it stands. -/
def anything : Decoder Json := .ok

/-- A value or null. -/
def nullable {α : Type} (decode : Decoder α) : Decoder (Option α)
  | .null => .ok none
  | value => (decode value).map some

/-- Decodes the items in order, up to the first that is refused. -/
def each {α : Type} (decode : Decoder α) : List Json → Except DecodeError (List α)
  | [] => .ok []
  | item :: rest =>
    match decode item with
    | .error e => .error e
    | .ok a =>
      match each decode rest with
      | .error e => .error e
      | .ok as => .ok (a :: as)

/-- A list of values of one form. -/
def list {α : Type} (decode : Decoder α) : Decoder (List α)
  | .arr items => each decode items
  | value => .error (.wrongKind value "a sequence")

/-- An object of any fields. -/
def object : Decoder (Table Json)
  | .obj fields => .ok fields
  | value => .error (.wrongKind value "a map")

/-- Decodes the values of the fields in order, up to the first that is refused. -/
def eachField {α : Type} (decode : Decoder α) :
    List (String × Json) → Except DecodeError (List (String × α))
  | [] => .ok []
  | (name, value) :: rest =>
    match decode value with
    | .error e => .error e
    | .ok a =>
      match eachField decode rest with
      | .error e => .error e
      | .ok as => .ok ((name, a) :: as)

/-- An object whose fields are all of one form. -/
def table {α : Type} (decode : Decoder α) : Decoder (Table α)
  | .obj fields => (eachField decode fields).map Table.ofEntries
  | value => .error (.wrongKind value "a map")

/-- Values that are read as they were before they were written are so in a list. -/
theorem list_written {α : Type} {decode : Decoder α} {write : α → Json} {items : List α}
    (h : ∀ item ∈ items, decode (write item) = .ok item) :
    list decode (.arr (items.map write)) = .ok items := by
  rw [list]
  induction items with
  | nil => rfl
  | cons item rest ih =>
    obtain ⟨hitem, hrest⟩ := List.forall_mem_cons.mp h
    rw [List.map_cons, each, hitem, ih hrest]

end DialogueFlow.Decode
