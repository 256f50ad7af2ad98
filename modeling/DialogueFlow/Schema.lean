/-
  Schemas of JSON values and the list of what a value violates. A rule about one kind of value
  accepts every value of another kind; only `kind` and `among` look at the kind itself.
-/
import DialogueFlow.Json.Printer

namespace DialogueFlow

/-- The kinds of values that a schema can ask for. -/
inductive JsonKind where
  | array
  | boolean
  | null
  | object
  | string
  deriving DecidableEq, Repr

namespace JsonKind

/-- The name of a kind in quotes. -/
def quotedName : JsonKind → String
  | .array => "\"array\""
  | .boolean => "\"boolean\""
  | .null => "\"null\""
  | .object => "\"object\""
  | .string => "\"string\""

/-- Whether a value is of the kind. -/
def holds : JsonKind → Json → Bool
  | .array, .arr _ => true
  | .boolean, .bool _ => true
  | .null, .null => true
  | .object, .obj _ => true
  | .string, .str _ => true
  | _, _ => false

end JsonKind

inductive Schema where
  /-- All rules hold. -/
  | all (rules : List Schema)
  /-- The value is of one of the kinds, listed by name. -/
  | kind (kinds : List JsonKind)
  /-- The value is one of these texts. -/
  | among (names : List String)
  /-- A text has at least so many characters. -/
  | minLength (length : Nat)
  /-- An object has all these fields. -/
  | required (names : List String)
  /-- The fields of an object that are present satisfy their schemas. -/
  | fields (schemas : List (String × Schema))
  /-- An object has no other fields. -/
  | only (names : List String)
  /-- The items of an array satisfy the schema. -/
  | items (schema : Schema)
  /-- If the field of an object is absent or this text, the value satisfies the schema. -/
  | unlessOther (name text : String) (schema : Schema)

/-- One violated rule. -/
inductive Violation where
  | wrongKind (value : Json) (kinds : List JsonKind)
  | notAmong (value : Json) (names : List String)
  | tooShort (value : Json) (length : Nat)
  | missing (name : String)
  | unexpected (names : List String)
  deriving DecidableEq, Repr

namespace Violation

/-- A text as JSON. -/
def asJson (s : String) : String := String.ofList (Json.writeString s)

/-- The allowed texts in words: up to three are listed, of more the first two. -/
def options (names : List String) : String :=
  let listed := if names.length ≤ 3 then names.dropLast else names.take 2
  let last :=
    if names.length ≤ 3 then asJson (names.getLast?.getD "")
    else s!"{names.length - 2} other candidates"
  String.intercalate ", " (listed.map asJson) ++ " or " ++ last

/-- The wording of a violation. -/
def message : Violation → String
  | .wrongKind value [kind] => s!"{value.print} is not of type {kind.quotedName}"
  | .wrongKind value kinds =>
    s!"{value.print} is not of types " ++ String.intercalate ", " (kinds.map JsonKind.quotedName)
  | .notAmong value names => s!"{value.print} is not one of {options names}"
  | .tooShort value length =>
    s!"{value.print} is shorter than {length} character" ++ (if length = 1 then "" else "s")
  | .missing name => s!"{asJson name} is a required property"
  | .unexpected names =>
    "Additional properties are not allowed (" ++
      String.intercalate ", " (names.map fun name => "'" ++ name ++ "'") ++
      (if names.length = 1 then " was" else " were") ++ " unexpected)"

end Violation

namespace Schema

/-- The value is one of the texts. -/
def isAmong (names : List String) : Json → Bool
  | .str s => s ∈ names
  | _ => false

/-- The field is absent, or the value is no object, or the field is this text. -/
def mayBe (name text : String) : Json → Bool
  | .obj found =>
    match Table.get? found name with
    | some value => value = .str text
    | none => true
  | _ => true

mutual

/-- What a value violates. -/
def violations : Schema → Json → List Violation
  | .all rules, value => violationsOfAll rules value
  | .kind kinds, value => if kinds.any (·.holds value) then [] else [.wrongKind value kinds]
  | .among names, value => if isAmong names value then [] else [.notAmong value names]
  | .minLength length, .str s => if s.length < length then [.tooShort (.str s) length] else []
  | .required names, .obj found =>
    (names.filter fun name => !Table.contains found name).map .missing
  | .fields schemas, .obj found => violationsOfFields schemas found
  | .only names, .obj found =>
    match (found.map (·.1)).filter (· ∉ names) with
    | [] => []
    | others => [.unexpected others]
  | .items schema, .arr values => values.flatMap fun value => violations schema value
  | .unlessOther name text schema, value =>
    if mayBe name text value then violations schema value else []
  | _, _ => []

/-- What a value violates of several rules. -/
def violationsOfAll : List Schema → Json → List Violation
  | [], _ => []
  | rule :: rest, value => violations rule value ++ violationsOfAll rest value

/-- What the fields of an object violate. -/
def violationsOfFields : List (String × Schema) → List (String × Json) → List Violation
  | [], _ => []
  | (name, schema) :: rest, found =>
    (match Table.get? found name with
      | some value => violations schema value
      | none => []) ++ violationsOfFields rest found

end

/-- The value violates nothing. -/
def Accepts (schema : Schema) (value : Json) : Prop := schema.violations value = []

instance (schema : Schema) (value : Json) : Decidable (schema.Accepts value) :=
  inferInstanceAs (Decidable (_ = _))

end Schema

end DialogueFlow
