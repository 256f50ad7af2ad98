/-
  The text of templates. Statements change the scope: an assignment binds in the innermost frame.
  Each round of a loop opens a frame of its own, so what its body binds is lost after the round.
-/
import DialogueFlow.Template.Parser
import DialogueFlow.Template.Evaluation

namespace DialogueFlow.Template

namespace Target

mutual

/-- The names of a target with the values they get. -/
def bindings : Target → Value → Except Failure (List (String × Value))
  | .name s, value => .ok [(s, value)]
  | .tuple parts, value =>
    match value with
    | .list items => bindingsOf parts items
    | .series items => bindingsOf parts items
    | .map entries => bindingsOf parts (entries.map (·.1))
    | _ => .error .cannotUnpack

/-- The names of several targets with the values they get. -/
def bindingsOf : List Target → List Value → Except Failure (List (String × Value))
  | [], [] => .ok []
  | part :: parts, value :: values => do
    let first ← bindings part value
    let rest ← bindingsOf parts values
    return first ++ rest
  | _, _ => .error .cannotUnpack

end

end Target

namespace Scope

/-- The scope with names bound in its innermost frame. -/
def bind (scope : Scope) (entries : List (String × Value)) : Scope :=
  match scope.frames with
  | [] => { scope with frames := [Table.ofEntries entries] }
  | frame :: rest =>
    let frame := entries.foldl (fun frame entry => Table.insert frame entry.1 entry.2) frame
    { scope with frames := frame :: rest }

/-- The scope inside a new frame. -/
def push (scope : Scope) : Scope := { scope with frames := [] :: scope.frames }

end Scope

/-- The rounds of a loop: each item with what the name `loop` stands for in its round. -/
def rounds (items : List Value) : List (Value × Value) :=
  let before := .undefined :: items
  let behind := items.drop 1 ++ [.undefined]
  let count := items.length
  (items.zip (before.zip behind)).zipIdx.map fun ((item, before, behind), place) =>
    (item, .loop place count before behind)

/-- The text sent through filters, one after another. -/
def filtered (scope : Scope) :
    Value → List (String × List Expression) → Except Failure Value
  | subject, [] => .ok subject
  | subject, (name, arguments) :: rest => do
    let arguments ← Expression.values scope arguments
    filtered scope (← Builtin.filter name subject arguments) rest

/-- The items for which a loop's condition holds. -/
def selectItems (scope : Scope) (target : Target) (only : Option Expression)
    (items : List Value) : Except Failure (List Value) :=
  match only with
  | none => .ok items
  | some only =>
    items.filterM fun item => do
      let inner := scope.push.bind (← target.bindings item)
      return (← only.value inner).isTrue

namespace Statement

mutual

/-- The text of a statement and the scope after it. -/
def render : Statement → Scope → Except Failure (String × Scope)
  | .literal s, scope => .ok (s, scope)
  | .output value, scope => do return ((← value.value scope).text, scope)
  | .ifThen test yes no, scope => do
    if (← test.value scope).isTrue then renderAll yes scope else renderAll no scope
  | .forEach target items only body empty, scope => do
    match (← items.value scope).elements? with
    | none => .error .notIterable
    | some items => do
      let items ← selectItems scope target only items
      if items.isEmpty then renderAll empty scope
      else
        let text ← (rounds items).foldlM (fun text (item, loop) => do
          let bindings ← target.bindings item
          let inner := scope.push.bind (("loop", loop) :: bindings)
          return text ++ (← renderAll body inner).1) ""
        return (text, scope)
  | .assign target value, scope => do
    let bindings ← target.bindings (← value.value scope)
    return ("", scope.bind bindings)
  | .capture s filters body, scope => do
    let (text, scope) ← renderAll body scope
    let value ← filtered scope (.str text) filters
    return ("", scope.bind [(s, value)])

/-- The text of statements one after another and the scope after them. -/
def renderAll : List Statement → Scope → Except Failure (String × Scope)
  | [], scope => .ok ("", scope)
  | first :: rest, scope => do
    let (text, scope) ← render first scope
    let (more, scope) ← renderAll rest scope
    return (text ++ more, scope)

end

end Statement

/-- The text of a template whose names stand for the parts of `root`. -/
def render (source : String) (root : Json) : Except Failure String := do
  let statements ← Statement.ofText? source
  let (text, _) ← Statement.renderAll statements (.ofRoot (.ofJson root))
  return text

/-- Whether an expression over a document is true. -/
def holds (source : String) (document : Json) : Except Failure Bool := do
  let expression ← Expression.ofText? source
  return (← expression.value (.ofRoot (.ofJson document))).isTrue

end DialogueFlow.Template
