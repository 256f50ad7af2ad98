/-
  The numbers of templates: floats, and whole numbers, each stored in one of four widths. Two
  numbers meet as one type, both whole or both floats; a comparison asks for more, that the way to
  a float and back loses nothing. Where it would lose something, the two are not equal and their
  order is that of the numbers themselves.
-/
import DialogueFlow.Decimal.Layout
import DialogueFlow.Decimal.Remainder

namespace DialogueFlow.Template

/-- How a whole number is stored. -/
inductive Width where
  | unsigned64
  | signed64
  | unsigned128
  | signed128
  deriving DecidableEq, Repr

namespace Width

/-- The least number of a width. -/
def least : Width → Int
  | .unsigned64 => 0
  | .signed64 => -(2 ^ 63)
  | .unsigned128 => 0
  | .signed128 => -(2 ^ 127)

/-- The greatest number of a width. -/
def greatest : Width → Int
  | .unsigned64 => 2 ^ 64 - 1
  | .signed64 => 2 ^ 63 - 1
  | .unsigned128 => 2 ^ 128 - 1
  | .signed128 => 2 ^ 127 - 1

/-- The number of a width that is nearest to `n`. -/
def clamp (width : Width) (n : Int) : Int := max width.least (min width.greatest n)

end Width

/-- A whole number or a float. -/
inductive Number where
  | whole (n : Int) (width : Width)
  | float (x : Float)
  deriving Repr, Inhabited

/-- Two numbers of one type. -/
inductive NumberPair where
  | ints (a b : Int)
  | floats (a b : Float)

/-- The bound on the whole numbers of operators: they have 128 bits and a sign. -/
def fits (n : Int) : Bool := -(2 ^ 127) ≤ n && n < 2 ^ 127

/-- The whole part of a finite float. -/
def wholePart (x : Float) : Int :=
  let magnitude := Decimal.Magnitude.ofBits x.toBits
  let n := magnitude.units * 2 ^ magnitude.scale.toNat / 2 ^ (-magnitude.scale).toNat
  if 2 ^ 63 ≤ x.toBits.toNat then -n else n

/-- The order of a whole number and a float, both taken exactly; not-a-number is above all. -/
def compareExactly (n : Int) (x : Float) : Ordering :=
  if x.isNaN then .lt
  else if x.isInf then (if x > 0.0 then .lt else .gt)
  else
    let magnitude := Decimal.Magnitude.ofBits x.toBits
    let units : Int :=
      if 2 ^ 63 ≤ x.toBits.toNat then -(magnitude.units : Int) else magnitude.units
    compare (n * 2 ^ (-magnitude.scale).toNat) (units * 2 ^ magnitude.scale.toNat)

/-- The order of floats by value; not-a-number, which has no place there, goes by its bits. -/
def compareFloats (x y : Float) : Ordering :=
  let key (x : Float) : Int :=
    let bits := x.toBits.toNat
    if 2 ^ 63 ≤ bits then -((bits - 2 ^ 63 : Nat) : Int) - 1 else bits
  if x < y then .lt else if x > y then .gt else if x == y then .eq else compare (key x) (key y)

namespace Number

/-- A number that is written out, or counts something. -/
def ofNat (n : Nat) : Number := .whole n (if n < 2 ^ 64 then .unsigned64 else .unsigned128)

/-- A number that may be negative: in 64 bits if it fits. -/
def ofInt (n : Int) : Number :=
  .whole n (if -(2 ^ 63) ≤ n ∧ n < 2 ^ 63 then .signed64 else .signed128)

/-- Zero is false, any other number true. -/
def isTrue : Number → Bool
  | .whole n _ => n ≠ 0
  | .float x => x != 0.0

/-- The number as a float; unless `lossy`, only if the float leads back to it within its width. -/
def float? (lossy : Bool) : Number → Option Float
  | .float x => some x
  | .whole n width =>
    let x := Float.ofInt n
    if lossy || width.clamp (wholePart x) = n then some x else none

/-- The number as a whole number of 128 bits with a sign; of floats, those of 64 bits without a
fraction. -/
def whole? : Number → Option Int
  | .whole n _ => if fits n then some n else none
  | .float x =>
    let n := x.toInt64.toInt
    if Float.ofInt n == x then some n else none

/-- Two numbers as one type: as floats if one is a float, and else as whole numbers with a sign. Two
numbers of 128 bits without a sign keep their bits. -/
def pair? (lossy : Bool) : Number → Number → Option NumberPair
  | .float x, b => (b.float? lossy).map (.floats x)
  | a, .float y => (a.float? lossy).map (.floats · y)
  | .whole m .unsigned128, .whole n .unsigned128 =>
    some (.ints (m.bmod (2 ^ 128)) (n.bmod (2 ^ 128)))
  | .whole m _, .whole n _ => if fits m && fits n then some (.ints m n) else none

/-- Equality by value. -/
def same (a b : Number) : Bool :=
  match a.pair? false b with
  | some (.ints m n) => m = n
  | some (.floats x y) => x == y
  | none => false

/-- The order by value. -/
def order (a b : Number) : Ordering :=
  match a.pair? false b with
  | some (.ints m n) => compare m n
  | some (.floats x y) => compareFloats x y
  | none =>
    match a, b with
    | .whole m _, .whole n _ => compare m n
    | .whole m _, .float y => compareExactly m y
    | .float x, .whole n _ => (compareExactly n x).swap
    | .float x, .float y => compareFloats x y

/-- Numbers that a template prints never carry an exponent. -/
def plainLayout : Decimal.Layout where
  positional := fun _ => true
  plusSign := false
  tie := .up

/-- Numbers inside lists and maps carry an exponent from `10 ^ 16` on and below `0.0001`. -/
def nestedLayout : Decimal.Layout where
  positional := fun exponent => -4 ≤ exponent && exponent ≤ 15
  plusSign := false
  tie := .up

/-- The text of a number under the layout of its place. -/
def text (layout : Decimal.Layout) : Number → String
  | .whole n _ =>
    String.ofList (if n < 0 then '-' :: Decimal.digitsOf n.natAbs else Decimal.digitsOf n.natAbs)
  | .float x => String.ofList (layout.render x)

end Number

example : (Number.ofNat (2 ^ 64 - 1)).same (.float 18446744073709551616.0) = true := by
  decide +kernel

example : (Number.ofNat (2 ^ 63 - 1)).same (.float 9223372036854775808.0) = false := by
  decide +kernel

example : (Number.ofNat 9007199254740993).order (.float 9007199254740992.0) = .gt := by
  decide +kernel

end DialogueFlow.Template
