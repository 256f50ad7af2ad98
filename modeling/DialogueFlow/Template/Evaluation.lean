/-
  The values of expressions. A name is looked up in the frames of the scope, the innermost first,
  then in the root, then among the built-in functions; a name found nowhere is undefined. What a
  value lacks is undefined, but an undefined value has no attributes and no items.
-/
import DialogueFlow.Template.Syntax
import DialogueFlow.Template.Builtin
import DialogueFlow.Table

namespace DialogueFlow.Template

/-- What names stand for. -/
structure Scope where
  /-- The frame of every open round of a loop, the innermost first, and last the frame of the
  template. -/
  frames : List (Table Value)
  root : Value

namespace Scope

/-- The scope of a template before its first statement. -/
def ofRoot (root : Value) : Scope := ⟨[[]], root⟩

/-- What the root has under a name. -/
def rootValue? (root : Value) (name : String) : Option Value :=
  match root with
  | .map entries => Value.valueAt? entries (.str name)
  | _ => none

/-- The value of a name. -/
def value (scope : Scope) (name : String) : Value :=
  match scope.frames.findSome? fun frame => frame.get? name with
  | some value => value
  | none =>
    match rootValue? scope.root name with
    | some value => value
    | none => if name ∈ Builtin.functions then .function name else .undefined

end Scope

namespace Value

/-- The place that an index means in a sequence; a negative one counts from the end. -/
def place? (index : Value) (length : Nat) : Option Nat :=
  match index.whole? with
  | some i =>
    if 0 ≤ i then some i.toNat
    else if i.natAbs ≤ length then some (length - i.natAbs) else .none
  | .none => .none

/-- The attributes of a loop. -/
def loopAttributes (place count : Nat) (before behind : Value) : List (String × Value) :=
  [("index0", .ofNat place), ("index", .ofNat (place + 1)),
    ("revindex0", .ofNat (count - place - 1)), ("revindex", .ofNat (count - place)),
    ("first", .bool (place = 0)), ("last", .bool (place + 1 = count)), ("length", .ofNat count),
    ("depth0", .ofNat 0), ("depth", .ofNat 1), ("previtem", before), ("nextitem", behind)]

/-- An item of a value. -/
def item (owner index : Value) : Except Failure Value :=
  match owner with
  | .undefined => .error .undefinedValue
  | .map entries => .ok ((valueAt? entries index).getD .undefined)
  | .list items => .ok (((place? index items.length).bind (items[·]?)).getD .undefined)
  | .series items => .ok (((place? index items.length).bind (items[·]?)).getD .undefined)
  | .str s =>
    .ok (((place? index s.length).bind (s.toList[·]?)).map (fun c => str (String.ofList [c]))
      |>.getD .undefined)
  | .loop place count before behind =>
    match index with
    | .str name => .ok (((loopAttributes place count before behind).lookup name).getD .undefined)
    | _ => .ok .undefined
  | _ => .ok .undefined

/-- An attribute of a value: its item under a name. -/
def member (owner : Value) (name : String) : Except Failure Value := owner.item (.str name)

end Value

namespace Expression

mutual

/-- The value of an expression. -/
def value (scope : Scope) : Expression → Except Failure Value
  | .constant value => .ok value
  | .name s => .ok (scope.value s)
  | .list items => do return .list (← values scope items)
  | .map entries => do return .ofEntries (← entryValues scope entries)
  | .negate operand => do negative (← value scope operand)
  | .complement operand => do return .bool !(← value scope operand).isTrue
  | .operation op left right => do
    let left ← value scope left
    let right ← value scope right
    op.apply left right
  | .comparison first rest => do return .bool (← linksHold scope (← value scope first) rest)
  | .both left right => do
    let left ← value scope left
    if left.isTrue then value scope right else return left
  | .either left right => do
    let left ← value scope left
    if left.isTrue then return left else value scope right
  | .choice condition yes no => do
    let condition ← value scope condition
    if condition.isTrue then value scope yes else value scope no
  | .member owner s => do (← value scope owner).member s
  | .item owner index => do
    let owner ← value scope owner
    let index ← value scope index
    owner.item index
  | .filter s subject arguments => do
    let subject ← value scope subject
    let arguments ← values scope arguments
    Builtin.filter s subject arguments
  | .test s subject arguments => do
    let subject ← value scope subject
    let arguments ← values scope arguments
    return .bool (← Builtin.test s subject arguments)
  | .call callee arguments => do
    let callee ← value scope callee
    let arguments ← values scope arguments
    Builtin.call callee arguments

/-- Whether comparisons hold one after another, up to the first that does not. -/
def linksHold (scope : Scope) (left : Value) :
    List (Comparison × Expression) → Except Failure Bool
  | [] => .ok true
  | (relation, right) :: rest => do
    let right ← value scope right
    if ← relation.holds left right then linksHold scope right rest else return false

/-- The values of expressions. -/
def values (scope : Scope) : List Expression → Except Failure (List Value)
  | [] => .ok []
  | first :: rest => do
    let first ← value scope first
    let rest ← values scope rest
    return first :: rest

/-- The keys and values of a map's entries. -/
def entryValues (scope : Scope) :
    List (Expression × Expression) → Except Failure (List (Value × Value))
  | [] => .ok []
  | (key, first) :: rest => do
    let key ← value scope key
    let first ← value scope first
    let rest ← entryValues scope rest
    return (key, first) :: rest

end

end Expression

end DialogueFlow.Template
