/-
  The syntax trees of expressions and of templates.
-/
import DialogueFlow.Template.Operator
import DialogueFlow.Template.Comparison

namespace DialogueFlow.Template

inductive Expression where
  | constant (value : Value)
  | name (name : String)
  | list (items : List Expression)
  | map (entries : List (Expression × Expression))
  | negate (operand : Expression)
  | complement (operand : Expression)
  | operation (op : Operator) (left right : Expression)
  /-- Comparisons one after another, each between neighbours. -/
  | comparison (first : Expression) (rest : List (Comparison × Expression))
  /-- The left operand if it is false, else the right one. -/
  | both (left right : Expression)
  /-- The left operand if it is true, else the right one. -/
  | either (left right : Expression)
  /-- The second operand if the first is true, else the third. -/
  | choice (test yes no : Expression)
  | member (owner : Expression) (name : String)
  | item (owner index : Expression)
  | filter (name : String) (subject : Expression) (arguments : List Expression)
  | test (name : String) (subject : Expression) (arguments : List Expression)
  | call (callee : Expression) (arguments : List Expression)
  deriving Inhabited

/-- What an assignment or a loop binds: one name, or several to the items of a list. -/
inductive Target where
  | name (name : String)
  | tuple (parts : List Target)
  deriving Inhabited

inductive Statement where
  | literal (text : String)
  | output (value : Expression)
  | ifThen (test : Expression) (yes no : List Statement)
  /-- A loop over the items for which the condition holds, with a body for when there are none. -/
  | forEach (target : Target) (items : Expression) (only : Option Expression)
      (body empty : List Statement)
  | assign (target : Target) (value : Expression)
  /-- Binds a name to the text of the body, sent through filters. -/
  | capture (name : String) (filters : List (String × List Expression)) (body : List Statement)
  deriving Inhabited

end DialogueFlow.Template
