/-
  The built-in filters, tests and functions of expressions. A filter of texts takes any value as
  its text; an optional argument that is none or undefined counts as left out. These are not all
  that the language of templates has: any other filter or test is unknown here, and of the
  functions `debug` and `namespace` there are only the names.
-/
import DialogueFlow.Template.Operator
import DialogueFlow.Text.Blank
import DialogueFlow.Text.Case

namespace DialogueFlow.Template

namespace Builtin

/-- An argument, unless it is none or undefined. -/
def given? : List Value → Option Value
  | [] => none
  | .none :: _ => none
  | .undefined :: _ => none
  | value :: _ => some value

/-! ## Filters -/

/-- Replaces the occurrences of a part that is not empty, from left to right; `skipped` characters
belong to an occurrence already replaced. -/
def replaceFrom (part new : List Char) : (skipped : Nat) → List Char → List Char
  | _, [] => []
  | skipped + 1, _ :: rest => replaceFrom part new skipped rest
  | 0, c :: rest =>
    if part.isPrefixOf (c :: rest) then new ++ replaceFrom part new (part.length - 1) rest
    else c :: replaceFrom part new 0 rest

/-- Replaces a part; the empty part is before and after every character. -/
def replaceAll (part new : List Char) (cs : List Char) : List Char :=
  if part.isEmpty then new ++ cs.flatMap fun c => c :: new else replaceFrom part new 0 cs

/-- Drops characters of a set at both ends. -/
def trimSet (set : List Char) (cs : List Char) : List Char :=
  ((cs.dropWhile (· ∈ set)).reverse.dropWhile (· ∈ set)).reverse

/-- The first item of a list, key of a map or character of a text. -/
def first (subject : Value) : Except Failure Value :=
  match subject with
  | .str _ | .list _ | .series _ | .map _ =>
    .ok ((subject.elements?.bind List.head?).getD .undefined)
  | _ => .error (.badOperation "first")

/-- The last item of a list or character of a text. -/
def last (subject : Value) : Except Failure Value :=
  match subject with
  | .str _ | .list _ | .series _ =>
    .ok ((subject.elements?.bind List.getLast?).getD .undefined)
  | _ => .error (.badOperation "last")

/-- The value, or the replacement if it is undefined, or if it is false and the second argument is
true. -/
def orElse (subject : Value) (arguments : List Value) : Value :=
  let lax := (arguments.drop 1).any Value.isTrue
  if subject.rank = Value.undefined.rank || lax && !subject.isTrue then
    (given? arguments).getD (.str "")
  else subject

/-- The texts of the items of a value, joined. -/
def join (subject : Value) (arguments : List Value) : Except Failure Value :=
  let joiner := ((given? arguments).map Value.text).getD ""
  match subject.elements? with
  | some items => .ok (.str (joiner.intercalate (items.map Value.text)))
  | none => .error (.badOperation "join")

/-- The result of a filter; a filter that is not among these is unknown. -/
def filter (name : String) (subject : Value) (arguments : List Value) : Except Failure Value :=
  let atMost (count : Nat) (result : Except Failure Value) : Except Failure Value :=
    if arguments.length ≤ count then result else .error (.badArguments name)
  let cs := subject.text.toList
  match name with
  | "upper" => atMost 0 (.ok (.str (Text.upperCase subject.text)))
  | "lower" => atMost 0 (.ok (.str (Text.lowerCase subject.text)))
  | "trim" =>
    atMost 1 (.ok (.str (match given? arguments with
      | none => Text.trim subject.text
      | some set => String.ofList (trimSet set.text.toList cs))))
  | "length" | "count" =>
    atMost 0 (match subject.length? with
      | some n => .ok (.ofNat n)
      | none => .error (.badOperation name))
  | "default" | "d" => atMost 2 (.ok (orElse subject arguments))
  | "join" => atMost 1 (join subject arguments)
  | "first" => atMost 0 (first subject)
  | "last" => atMost 0 (last subject)
  | "replace" =>
    match arguments with
    | [part, new] => .ok (.str (String.ofList (replaceAll part.text.toList new.text.toList cs)))
    | _ => .error (.badArguments name)
  | name => .error (.unknownFilter name)

/-! ## Tests -/

/-- The tests of a value without arguments. -/
def tests : List (String × (Value → Bool)) :=
  [("defined", fun value => value.rank ≠ Value.undefined.rank),
    ("undefined", fun value => value.rank = Value.undefined.rank),
    ("none", fun value => value.rank = Value.none.rank),
    ("number", fun value => value.rank = (Value.ofNat 0).rank),
    ("string", fun value => value.rank = (Value.str "").rank),
    ("mapping", fun value => value.rank = (Value.map []).rank),
    ("sequence", fun value => value.rank = (Value.list []).rank),
    ("boolean", fun value => value.rank = (Value.bool true).rank),
    ("odd", fun value => value.whole?.any (· % 2 ≠ 0)),
    ("even", fun value => value.whole?.any (· % 2 = 0))]

/-- The result of a test. -/
def test (name : String) (subject : Value) (arguments : List Value) : Except Failure Bool :=
  match tests.lookup name with
  | none => .error (.unknownTest name)
  | some decides =>
    if arguments.isEmpty then .ok (decides subject) else .error (.badArguments name)

/-! ## Functions -/

/-- The names that stand for built-in functions. -/
def functions : List String := ["range", "dict", "debug", "namespace"]

/-- How many numbers there are from a start to before a bound, in steps. -/
def rangeLength (start bound step : Int) : Nat :=
  if 0 < step then ((bound - start + step - 1) / step).toNat
  else ((start - bound - step - 1) / -step).toNat

/-- The most numbers that a range may have. -/
def rangeLimit : Nat := 100000

/-- The numbers from a start to before a bound, in steps up or down. -/
def numbersFrom (start bound step : Int) : Except Failure Value :=
  let length := rangeLength start bound step
  if step = 0 ∨ rangeLimit < length then .error (.badArguments "range")
  else
    .ok (.series ((List.range length).map fun (i : Nat) => .number (.ofInt (start + i * step))))

/-- A whole number of 64 bits with a sign. -/
def word? (value : Value) : Option Int :=
  value.whole?.bind fun n => if -(2 ^ 63) ≤ n ∧ n < 2 ^ 63 then some n else none

/-- The range of these arguments: a bound, or a start, a bound and perhaps a step. -/
def range (arguments : List Value) : Except Failure Value :=
  let optional (place : Nat) : Option (Option Int) :=
    match given? (arguments.drop place) with
    | none => some none
    | some value => (word? value).map some
  match arguments.head?.bind word?, optional 1, optional 2 with
  | some first, some bound, some step =>
    if 3 < arguments.length then .error (.badArguments "range")
    else
      match bound with
      | some bound => numbersFrom first bound (step.getD 1)
      | none => numbersFrom 0 first (step.getD 1)
  | _, _, _ => .error (.badArguments "range")

/-- The result of calling a value; a call of `debug` or `namespace` fails. -/
def call (callee : Value) (arguments : List Value) : Except Failure Value :=
  match callee, arguments with
  | .function "range", arguments => range arguments
  | .function "dict", [] => .ok (.map [])
  | .function "dict", [.map entries] => .ok (.map entries)
  | .function name, _ => .error (.badArguments name)
  | _, _ => .error (.badOperation "call")

end Builtin

end DialogueFlow.Template
