/-
  Comparisons of values. They may follow one another: each is then between neighbours, and all must
  hold.
-/
import DialogueFlow.Template.Value
import DialogueFlow.Template.Failure

namespace DialogueFlow.Template

inductive Comparison where
  | equal
  | unequal
  | less
  | atMost
  | greater
  | atLeast
  | contained
  | missing
  deriving DecidableEq, Repr

namespace Comparison

/-- The first text is somewhere in the second. -/
def occursIn (part : List Char) : List Char → Bool
  | [] => part.isEmpty
  | c :: rest => part.isPrefixOf (c :: rest) || occursIn part rest

/-- Whether a value is an item of a list, a key of a map or a part of a text. -/
def isContained (value container : Value) : Except Failure Bool :=
  match container with
  | .undefined => .ok false
  | .str s => .ok (occursIn value.text.toList s.toList)
  | .list items => .ok (items.any fun item => item.same value)
  | .series items => .ok (items.any fun item => item.same value)
  | .map entries => .ok (Value.valueAt? entries value).isSome
  | .function _ => .ok false
  | .loop .. => .ok false
  | _ => .error (.badOperation "in")

/-- Whether a comparison holds. -/
def holds (relation : Comparison) (a b : Value) : Except Failure Bool :=
  match relation with
  | .equal => .ok (a.same b)
  | .unequal => .ok !(a.same b)
  | .less => .ok (a.order b == .lt)
  | .atMost => .ok (a.order b != .gt)
  | .greater => .ok (a.order b == .gt)
  | .atLeast => .ok (a.order b != .lt)
  | .contained => isContained a b
  | .missing => (isContained a b).map not

/-- Whether comparisons hold one after another, up to the first that does not. -/
def allHold : Value → List (Comparison × Value) → Except Failure Bool
  | _, [] => .ok true
  | a, (relation, b) :: rest => do
    if ← relation.holds a b then allHold b rest else return false

end Comparison

end DialogueFlow.Template
