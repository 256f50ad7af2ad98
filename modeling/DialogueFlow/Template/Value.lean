/-
  The values of templates. Numbers and truth values are equal by value; the order goes by kind
  first. Maps may have any values as keys and are kept in ascending order of the keys.
-/
import DialogueFlow.Json.Basic
import DialogueFlow.Template.Number
import DialogueFlow.Text.Quoted

namespace DialogueFlow.Template

inductive Value where
  /-- What a name without a meaning stands for. -/
  | undefined
  | none
  | bool (value : Bool)
  | number (value : Number)
  | str (value : String)
  | list (items : List Value)
  | map (entries : List (Value × Value))
  /-- Items that come one after another, such as a sum of lists: equal to a list of them, but no
  list by its kind. -/
  | series (items : List Value)
  /-- A built-in function. -/
  | function (name : String)
  /-- The state of a loop in the round at a place among `count`, with the items of the rounds before
  and behind. -/
  | loop (place count : Nat) (before behind : Value)
  deriving Repr, Inhabited

namespace Value

/-- The whole number that is written out, or counts something. -/
def ofNat (n : Nat) : Value := .number (.ofNat n)

/-- The rank of a value's kind in the order of all values. -/
def rank : Value → Nat
  | .undefined => 0
  | .none => 1
  | .bool _ => 2
  | .number _ => 3
  | .str _ => 4
  | .list _ => 5
  | .map _ => 6
  | .series _ => 7
  | .function _ => 8
  | .loop .. => 8

/-- The truth of a value: empty, zero, none and undefined are false. -/
def isTrue : Value → Bool
  | .undefined => false
  | .none => false
  | .bool b => b
  | .number n => n.isTrue
  | .str s => s ≠ ""
  | .list items => !items.isEmpty
  | .map entries => !entries.isEmpty
  | .series items => !items.isEmpty
  | .function _ => true
  | .loop .. => true

/-- A number, or a truth value as zero or one. -/
def number? : Value → Option Number
  | .bool b => some (.ofNat (if b then 1 else 0))
  | .number n => some n
  | _ => .none

/-- A number without a fraction, or a truth value as zero or one. -/
def whole? (value : Value) : Option Int := value.number?.bind Number.whole?

/-- The text of a value that is no text, number, list or map. -/
def objectText : Value → String
  | .function name => name
  | .loop place count _ _ => s!"<loop {place}/{count}>"
  | _ => ""

/-- Equality of values without parts. -/
def sameAtom : Value → Value → Bool
  | .undefined, .undefined => true
  | .none, .none => true
  | .str a, .str b => a = b
  | a, b =>
    match a.number?, b.number? with
    | some m, some n => m.same n
    | _, _ =>
      a.rank = (Value.function "").rank && b.rank = a.rank && a.objectText = b.objectText

mutual

/-- Equality of values, across the kinds of numbers by value. -/
def same : Value → Value → Bool
  | .list as, .list bs => sameItems as bs
  | .list as, .series bs => sameItems as bs
  | .series as, .list bs => sameItems as bs
  | .series as, .series bs => sameItems as bs
  | .map as, .map bs => sameEntries as bs
  | a, b => sameAtom a b

/-- Equality of lists, item by item. -/
def sameItems : List Value → List Value → Bool
  | [], [] => true
  | a :: as, b :: bs => same a b && sameItems as bs
  | _, _ => false

/-- Equality of the entries of maps, in ascending order of the keys. -/
def sameEntries : List (Value × Value) → List (Value × Value) → Bool
  | [], [] => true
  | (k, a) :: as, (l, b) :: bs => same k l && same a b && sameEntries as bs
  | _, _ => false

end

/-- The order of values of one kind without parts. -/
def orderAtom : Value → Value → Ordering
  | .str a, .str b => compare a b
  | a, b =>
    match a.number?, b.number? with
    | some m, some n => m.order n
    | _, _ => compare a.objectText b.objectText

mutual

/-- The order of values: by kind, and within a kind by value. -/
def order : Value → Value → Ordering
  | .list as, .list bs => orderItems as bs
  | .map as, .map bs => orderEntries as bs
  | .series as, .series bs => orderItems as bs
  | a, b => (compare a.rank b.rank).then (orderAtom a b)

/-- The order of lists, item by item, a shorter list first. -/
def orderItems : List Value → List Value → Ordering
  | [], [] => .eq
  | [], _ :: _ => .lt
  | _ :: _, [] => .gt
  | a :: as, b :: bs => (order a b).then (orderItems as bs)

/-- The order of maps, entry by entry. -/
def orderEntries : List (Value × Value) → List (Value × Value) → Ordering
  | [], [] => .eq
  | [], _ :: _ => .lt
  | _ :: _, [] => .gt
  | (k, a) :: as, (l, b) :: bs => ((order k l).then (order a b)).then (orderEntries as bs)

end

/-- Sets the value of a key. -/
def insertEntry : List (Value × Value) → Value → Value → List (Value × Value)
  | [], key, value => [(key, value)]
  | (key', value') :: rest, key, value =>
    match order key key' with
    | .lt => (key, value) :: (key', value') :: rest
    | .eq => (key', value) :: rest
    | .gt => (key', value') :: insertEntry rest key value

/-- The map of these entries; the last entry of a key counts. -/
def ofEntries (entries : List (Value × Value)) : Value :=
  .map (entries.foldl (fun map entry => insertEntry map entry.1 entry.2) [])

/-- The value of a key. -/
def valueAt? (entries : List (Value × Value)) (key : Value) : Option Value :=
  (entries.find? fun entry => order key entry.1 == .eq).map (·.2)

mutual

/-- A JSON value as a value of templates. -/
def ofJson : Json → Value
  | .null => .none
  | .bool b => .bool b
  | .int n => .number (if 0 ≤ n then .ofNat n.toNat else .ofInt n)
  | .float x => .number (.float x)
  | .str s => .str s
  | .arr items => .list (ofJsonItems items)
  | .obj fields => .map (ofJsonFields fields)

/-- JSON items as values. -/
def ofJsonItems : List Json → List Value
  | [] => []
  | item :: rest => ofJson item :: ofJsonItems rest

/-- JSON fields as entries of a map. -/
def ofJsonFields : List (String × Json) → List (Value × Value)
  | [] => []
  | (name, value) :: rest => (.str name, ofJson value) :: ofJsonFields rest

end

/-- The text of a truth value. -/
def boolText (b : Bool) : String := if b then "True" else "False"

mutual

/-- The text of a value inside a list or a map: texts are quoted. -/
def nestedText : Value → String
  | .undefined => "undefined"
  | .none => "None"
  | .bool b => boolText b
  | .number n => n.text Number.nestedLayout
  | .str s => Text.quoted s
  | .list items => "[" ++ itemsText items ++ "]"
  | .map entries => "\x7b" ++ entriesText entries ++ "\x7d"
  | .series items => "[" ++ itemsText items ++ "]"
  | .function name => name
  | .loop place count before behind => objectText (.loop place count before behind)

/-- The texts of items, separated by commas. -/
def itemsText : List Value → String
  | [] => ""
  | [item] => nestedText item
  | item :: rest => nestedText item ++ ", " ++ itemsText rest

/-- The texts of entries, separated by commas. -/
def entriesText : List (Value × Value) → String
  | [] => ""
  | [(key, value)] => nestedText key ++ ": " ++ nestedText value
  | (key, value) :: rest => nestedText key ++ ": " ++ nestedText value ++ ", " ++ entriesText rest

end

/-- The text that a template prints for a value. -/
def text : Value → String
  | .undefined => ""
  | .number n => n.text Number.plainLayout
  | .str s => s
  | value => nestedText value

/-- The items of a list or series. -/
def items? : Value → Option (List Value)
  | .list items => some items
  | .series items => some items
  | _ => .none

/-- What a loop over a value runs through: the items of a list or series, the keys of a map, the
characters of a text, and nothing for none and undefined. -/
def elements? : Value → Option (List Value)
  | .undefined => some []
  | .none => some []
  | .str s => some (s.toList.map fun c => .str (String.ofList [c]))
  | .map entries => some (entries.map (·.1))
  | value => value.items?

/-- How many characters, items or entries a value has. -/
def length? : Value → Option Nat
  | .str s => some s.length
  | .map entries => some entries.length
  | value => value.items?.map List.length

end Value

end DialogueFlow.Template
