/-
  Loading a catalog from its text: the text is JSON, the value satisfies the schema, it decodes, and
  the catalog has no defects. The first of these that fails is the error.
-/
import DialogueFlow.Flow.CatalogSchema
import DialogueFlow.Flow.Defect
import DialogueFlow.Json.Parser

namespace DialogueFlow

/-- Why a text is no catalog. -/
inductive LoadError where
  | notJson
  | schema (violations : List Violation)
  | shape (cause : DecodeError)
  | defects (found : List Defect)
  deriving DecidableEq, Repr

namespace LoadError

/-- The wording of a load error. -/
def message : LoadError → String
  | .notJson => "parse flows json"
  | .schema violations =>
    "flows schema validation failed: " ++
      String.intercalate "; " (violations.map Violation.message)
  | .shape cause => "deserialize flows as v1 catalog: " ++ cause.message
  | .defects found =>
    "flow invariants failed: " ++ String.intercalate "; " (found.map Defect.message)

end LoadError

/-- The catalog that a JSON value describes. -/
def Catalog.ofJson (value : Json) : Except LoadError Catalog :=
  match CatalogSchema.catalog.violations value with
  | violation :: rest => .error (.schema (violation :: rest))
  | [] =>
    match Catalog.decode value with
    | .error cause => .error (.shape cause)
    | .ok catalog =>
      match catalog.defects with
      | [] => .ok catalog
      | found => .error (.defects found)

/-- The catalog that a text describes. -/
def Catalog.load (text : String) : Except LoadError Catalog :=
  match Json.parse? text with
  | none => .error .notJson
  | some value => Catalog.ofJson value

end DialogueFlow
