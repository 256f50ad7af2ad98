/-
  Catalogs: lists of flows that are looked up by id, where the first flow of an id counts.
-/
import DialogueFlow.Flow.Basic

namespace DialogueFlow

/-- The flows that may be on a dialogue stack. -/
abbrev Catalog := List Flow

namespace Catalog

/-- The first flow of an id. -/
def flow? (catalog : Catalog) (id : String) : Option Flow := List.find? (·.id = id) catalog

/-- Adds a flow unless there is one of its id. -/
def add (catalog : Catalog) (flow : Flow) : Catalog :=
  match catalog.flow? flow.id with
  | some _ => catalog
  | none => catalog ++ [flow]

/-- The catalog with those of `other` whose ids are new. -/
def merge (catalog other : Catalog) : Catalog := other.foldl add catalog

/-- The written form of a catalog: an object with the list of its flows. -/
def form : Decode.RecordForm Catalog where
  title := "struct FlowsList"
  names := ["flows"]
  required := ["flows"]
  blank := []
  set := fun _ _ value => Decode.list Flow.decode value

/-- Reads a catalog. -/
def decode : Decoder Catalog := form.decode .refused

end Catalog

end DialogueFlow
