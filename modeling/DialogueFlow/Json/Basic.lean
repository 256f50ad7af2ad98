/-
  JSON values. Whole numbers and floating-point numbers are told apart, and an object is a list of
  fields; a value is normal when the fields of each of its objects are in ascending order of their
  names, which `normal` brings about.
-/
import DialogueFlow.Power
import DialogueFlow.Table

namespace DialogueFlow

inductive Json where
  | null
  | bool (value : Bool)
  | int (value : Int)
  | float (value : Float)
  | str (value : String)
  | arr (items : List Json)
  | obj (fields : List (String × Json))
  deriving Repr, Inhabited

namespace Json

mutual

/-- Equality of values can be decided; floating-point numbers are equal when their bits are. -/
def decideEq : (a b : Json) → Decidable (a = b)
  | .null, .null => .isTrue rfl
  | .bool a, .bool b => if h : a = b then .isTrue (h ▸ rfl) else .isFalse fun e => h (by injection e)
  | .int a, .int b => if h : a = b then .isTrue (h ▸ rfl) else .isFalse fun e => h (by injection e)
  | .float a, .float b =>
    if h : a = b then .isTrue (h ▸ rfl) else .isFalse fun e => h (by injection e)
  | .str a, .str b => if h : a = b then .isTrue (h ▸ rfl) else .isFalse fun e => h (by injection e)
  | .arr a, .arr b =>
    match decideItems a b with
    | .isTrue h => .isTrue (h ▸ rfl)
    | .isFalse h => .isFalse fun e => h (by injection e)
  | .obj a, .obj b =>
    match decideFields a b with
    | .isTrue h => .isTrue (h ▸ rfl)
    | .isFalse h => .isFalse fun e => h (by injection e)
  | .null, .bool _ | .null, .int _ | .null, .float _ | .null, .str _ | .null, .arr _
  | .null, .obj _ | .bool _, .null | .bool _, .int _ | .bool _, .float _ | .bool _, .str _
  | .bool _, .arr _ | .bool _, .obj _ | .int _, .null | .int _, .bool _ | .int _, .float _
  | .int _, .str _ | .int _, .arr _ | .int _, .obj _ | .float _, .null | .float _, .bool _
  | .float _, .int _ | .float _, .str _ | .float _, .arr _ | .float _, .obj _ | .str _, .null
  | .str _, .bool _ | .str _, .int _ | .str _, .float _ | .str _, .arr _ | .str _, .obj _
  | .arr _, .null | .arr _, .bool _ | .arr _, .int _ | .arr _, .float _ | .arr _, .str _
  | .arr _, .obj _ | .obj _, .null | .obj _, .bool _ | .obj _, .int _ | .obj _, .float _
  | .obj _, .str _ | .obj _, .arr _ => .isFalse fun e => by cases e

/-- Equality of lists of values can be decided. -/
def decideItems : (a b : List Json) → Decidable (a = b)
  | [], [] => .isTrue rfl
  | a :: as, b :: bs =>
    match decideEq a b, decideItems as bs with
    | .isTrue h, .isTrue hs => .isTrue (h ▸ hs ▸ rfl)
    | .isFalse h, _ => .isFalse fun e => h (by injection e)
    | _, .isFalse hs => .isFalse fun e => hs (by injection e)
  | [], _ :: _ | _ :: _, [] => .isFalse fun e => by cases e

/-- Equality of lists of fields can be decided. -/
def decideFields : (a b : List (String × Json)) → Decidable (a = b)
  | [], [] => .isTrue rfl
  | (k, a) :: as, (l, b) :: bs =>
    if hk : k = l then
      match decideEq a b, decideFields as bs with
      | .isTrue h, .isTrue hs => .isTrue (hk ▸ h ▸ hs ▸ rfl)
      | .isFalse h, _ => .isFalse fun e => h (by injection e with e; injection e)
      | _, .isFalse hs => .isFalse fun e => hs (by injection e)
    else .isFalse fun e => hk (by injection e with e; injection e)
  | [], _ :: _ | _ :: _, [] => .isFalse fun e => by cases e

end

instance : DecidableEq Json := decideEq

mutual

/-- The value with the fields of all its objects sorted; of fields of one name the last counts. -/
def normal : Json → Json
  | .arr items => .arr (normalItems items)
  | .obj fields => .obj (Table.ofEntries (normalFields fields))
  | value => value

/-- Every item made normal. -/
def normalItems : List Json → List Json
  | [] => []
  | item :: rest => item.normal :: normalItems rest

/-- The value of every field made normal. -/
def normalFields : List (String × Json) → List (String × Json)
  | [] => []
  | (name, value) :: rest => (name, value.normal) :: normalFields rest

end

mutual

/-- How many arrays and objects lie around the innermost value. -/
def depth : Json → Nat
  | .arr items => itemsDepth items + 1
  | .obj fields => fieldsDepth fields + 1
  | _ => 0

/-- The greatest depth of an item. -/
def itemsDepth : List Json → Nat
  | [] => 0
  | item :: rest => max item.depth (itemsDepth rest)

/-- The greatest depth of a field. -/
def fieldsDepth : List (String × Json) → Nat
  | [] => 0
  | (_, value) :: rest => max value.depth (fieldsDepth rest)

end

/-- A whole number of 64 bits, signed or not. -/
def isWord (n : Int) : Bool := -(2 ^ 63) ≤ n && n < 2 ^ 64

mutual

/-- Every whole number inside the value has 64 bits. -/
def hasWords : Json → Bool
  | .int n => isWord n
  | .arr items => itemsHaveWords items
  | .obj fields => fieldsHaveWords fields
  | _ => true

/-- Every whole number inside the items has 64 bits. -/
def itemsHaveWords : List Json → Bool
  | [] => true
  | item :: rest => item.hasWords && itemsHaveWords rest

/-- Every whole number inside the fields has 64 bits. -/
def fieldsHaveWords : List (String × Json) → Bool
  | [] => true
  | (_, value) :: rest => value.hasWords && fieldsHaveWords rest

end

/-- The field of an object; nothing for a value of another kind. -/
def field? (value : Json) (name : String) : Option Json :=
  match value with
  | .obj fields => Table.get? fields name
  | _ => none

/-- An object with these entries. -/
def ofTable (table : Table Json) : Json := .obj table

end Json

end DialogueFlow
