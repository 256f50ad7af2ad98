/-
  Expressions made from their parts. Where all parts are constants and the operation succeeds, the
  expression is the constant that it amounts to, so that it is worked out once and not in every
  rendering. In one point the constant is not what the operands would give later: `and` of constants
  of which one is false is the truth value, and not the false operand.
-/
import DialogueFlow.Template.Syntax

namespace DialogueFlow.Template.Expression

/-- The value of a constant. -/
def constant? : Expression → Option Value
  | .constant value => some value
  | _ => none

/-- The keys and values of entries that are all constants. -/
def constantEntries? (entries : List (Expression × Expression)) : Option (List (Value × Value)) :=
  entries.mapM fun entry => do return (← entry.1.constant?, ← entry.2.constant?)

/-- The links of comparisons with constants only. -/
def constantLinks? (links : List (Comparison × Expression)) : Option (List (Comparison × Value)) :=
  links.mapM fun link => do return (link.1, ← link.2.constant?)

/-- The constant of a result; without a result, the expression as it stands. -/
def ofResult (expression : Expression) : Except Failure Value → Expression
  | .ok value => .constant value
  | .error _ => expression

/-- A list. -/
def ofItems (items : List Expression) : Expression :=
  match items.mapM constant? with
  | some values => .constant (.list values)
  | none => .list items

/-- A map. -/
def ofEntries (entries : List (Expression × Expression)) : Expression :=
  match constantEntries? entries with
  | some values => .constant (.ofEntries values)
  | none => .map entries

/-- The negative of an expression. -/
def ofNegative (operand : Expression) : Expression :=
  match operand with
  | .constant value => ofResult (.negate operand) (negative value)
  | _ => .negate operand

/-- The complement of an expression. -/
def ofComplement (operand : Expression) : Expression :=
  match operand with
  | .constant value => .constant (.bool !value.isTrue)
  | _ => .complement operand

/-- An operator between two expressions. -/
def ofOperation (op : Operator) (left right : Expression) : Expression :=
  match left, right with
  | .constant a, .constant b => ofResult (.operation op left right) (op.apply a b)
  | _, _ => .operation op left right

/-- Comparisons behind an expression, if there are any. -/
def ofComparisons (first : Expression) (links : List (Comparison × Expression)) : Expression :=
  if links.isEmpty then first
  else
    match first.constant?, constantLinks? links with
    | some a, some links' =>
      ofResult (.comparison first links) ((Comparison.allHold a links').map .bool)
    | _, _ => .comparison first links

/-- Both of two expressions. -/
def ofBoth (left right : Expression) : Expression :=
  match left, right with
  | .constant a, .constant b => .constant (if a.isTrue && b.isTrue then b else .bool false)
  | _, _ => .both left right

example : ofBoth (.constant (.ofNat 0)) (.constant (.ofNat 1)) = .constant (.bool false) := rfl

/-- Either of two expressions. -/
def ofEither (left right : Expression) : Expression :=
  match left, right with
  | .constant a, .constant b => .constant (if a.isTrue then a else b)
  | _, _ => .either left right

end DialogueFlow.Template.Expression
