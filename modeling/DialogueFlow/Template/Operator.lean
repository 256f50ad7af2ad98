/-
  The operators of expressions. Whole numbers have 128 bits, and a result beyond is a failure;
  whole-number division leaves a remainder that is not negative.
-/
import DialogueFlow.Template.Value
import DialogueFlow.Template.Failure
import DialogueFlow.Decimal.Remainder

namespace DialogueFlow.Template

/-- Operators whose result is made from both of their operands. -/
inductive Operator where
  | add
  | subtract
  | multiply
  | divide
  | floorDivide
  | modulo
  | power
  | join
  deriving DecidableEq, Repr

namespace Operator

/-- The written form of an operator. -/
def symbol : Operator → String
  | .add => "+"
  | .subtract => "-"
  | .multiply => "*"
  | .divide => "/"
  | .floorDivide => "//"
  | .modulo => "%"
  | .power => "**"
  | .join => "~"

/-- A whole number if it fits. -/
def ofInt (op : Operator) (n : Int) : Except Failure Value :=
  if fits n then .ok (.number (.ofInt n)) else .error (.badOperation op.symbol)

/-- Arithmetic on whole numbers. -/
def onInts (op : Operator) (a b : Int) : Except Failure Value :=
  let failed := Except.error (.badOperation op.symbol)
  match op with
  | .add => op.ofInt (a + b)
  | .subtract => op.ofInt (a - b)
  | .multiply => op.ofInt (a * b)
  | .floorDivide => if b = 0 then failed else op.ofInt (a / b)
  | .modulo => if b = 0 then failed else op.ofInt (a % b)
  | .power =>
    if b < 0 ∨ 2 ^ 32 ≤ b then failed
    else if a.natAbs ≤ 1 then op.ofInt (if a = -1 ∧ b % 2 = 0 then 1 else if b = 0 then 1 else a)
    else if 127 < b then failed
    else op.ofInt (a ^ b.toNat)
  | _ => failed

/-- Arithmetic on floats. -/
def onFloats (op : Operator) (x y : Float) : Except Failure Value :=
  let done (z : Float) : Except Failure Value := .ok (.number (.float z))
  match op with
  | .add => done (x + y)
  | .subtract => done (x - y)
  | .multiply => done (x * y)
  | .floorDivide => done (Decimal.quotient x y)
  | .modulo => done (Decimal.remainder x y)
  | .power => done (x.pow y)
  | _ => .error (.badOperation op.symbol)

/-- Arithmetic on numbers. -/
def onNumbers (op : Operator) (a b : Value) : Except Failure Value :=
  match a.number?, b.number? with
  | some m, some n =>
    match m.pair? true n with
    | some (.ints m n) => op.onInts m n
    | some (.floats x y) => op.onFloats x y
    | none => .error (.badOperation op.symbol)
  | _, _ => .error (.badOperation op.symbol)

/-- Division, always of floats. -/
def divided (a b : Value) : Except Failure Value :=
  match a.number?.bind (·.float? true), b.number?.bind (·.float? true) with
  | some x, some y => .ok (.number (.float (x / y)))
  | _, _ => .error (.badOperation Operator.divide.symbol)

/-- Addition: lists become a series, texts are put together, numbers added. -/
def added (a b : Value) : Except Failure Value :=
  match a.items?, b.items? with
  | some as, some bs => .ok (.series (as ++ bs))
  | _, _ =>
    match a, b with
    | .str s, .str t => .ok (.str (s ++ t))
    | a, b => onNumbers .add a b

/-- How often a text or list is repeated: a number of 64 bits without a sign. -/
def timesOf (count : Value) : Except Failure Nat :=
  match count.whole? with
  | some n =>
    if 0 ≤ n ∧ n < 2 ^ 64 then .ok n.toNat else .error (.badOperation Operator.multiply.symbol)
  | none => .error (.badOperation Operator.multiply.symbol)

/-- A list several times. -/
def repeated {α : Type} (times : Nat) (items : List α) : List α :=
  if items.isEmpty then [] else (List.replicate times items).flatten

/-- A text several times. -/
def textTimes (s : String) (count : Value) : Except Failure Value := do
  return .str (String.ofList (repeated (← timesOf count) s.toList))

/-- The items of a list several times. -/
def itemsTimes (items : List Value) (count : Value) : Except Failure Value := do
  return .series (repeated (← timesOf count) items)

/-- Multiplication: texts and lists are repeated, numbers multiplied. -/
def multiplied (a b : Value) : Except Failure Value :=
  match a, b with
  | .str s, count => textTimes s count
  | count, .str s => textTimes s count
  | a, b =>
    match a.items?, b.items? with
    | some items, _ => itemsTimes items b
    | none, some items => itemsTimes items a
    | none, none => onNumbers .multiply a b

/-- The result of an operator. -/
def apply (op : Operator) (a b : Value) : Except Failure Value :=
  match op with
  | .join => .ok (.str (a.text ++ b.text))
  | .divide => divided a b
  | .add => added a b
  | .multiply => multiplied a b
  | op => op.onNumbers a b

end Operator

/-- The negative of a number. The number `2 ^ 127`, which stands for the least number behind its
minus sign, is left as it is. -/
def negative : Value → Except Failure Value
  | .number (.float x) => .ok (.number (.float (-x)))
  | .number (.whole n width) =>
    if n = 2 ^ 127 then .ok (.number (.whole n width))
    else if fits n && fits (-n) then .ok (.number (.ofInt (-n)))
    else .error (.badOperation Operator.subtract.symbol)
  | _ => .error (.badOperation Operator.subtract.symbol)

end DialogueFlow.Template
