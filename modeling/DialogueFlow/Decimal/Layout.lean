/-
  How a floating-point number is written once its digits are chosen: positionally or with an
  exponent, the sign of the exponent, and the rule for ties. Each output format is one `Layout`.
-/
import DialogueFlow.Decimal.Shortest

namespace DialogueFlow.Decimal

/-- The layout decisions of one output format. -/
structure Layout where
  /-- Which exponents of the leading digit are written positionally. -/
  positional : Int → Bool
  /-- Whether an exponent that is not negative carries a plus sign. -/
  plusSign : Bool
  /-- Which of two equally near shortest decimals is written. -/
  tie : Tie

/-- The decimal digits of a number. -/
def digitsOf (n : Nat) : List Char := Nat.toDigits 10 n

/-- Digits with the point `before` places after their start; at least one digit on either side. -/
def withPoint (digits : List Char) (before : Int) : List Char :=
  if before ≤ 0 then '0' :: '.' :: List.replicate (-before).toNat '0' ++ digits
  else if digits.length ≤ before.toNat then
    digits ++ List.replicate (before.toNat - digits.length) '0' ++ ['.', '0']
  else digits.take before.toNat ++ '.' :: digits.drop before.toNat

/-- The sign and digits of an exponent. -/
def Layout.exponentText (layout : Layout) (exponent : Int) : List Char :=
  let sign := if exponent < 0 then ['-'] else if layout.plusSign then ['+'] else []
  sign ++ digitsOf exponent.natAbs

/-- A decimal under a layout. -/
def Layout.write (layout : Layout) (d : Scaled) : List Char :=
  let digits := digitsOf d.digits
  let before := d.exponent + digits.length
  if d.digits = 0 then ['0', '.', '0']
  else if layout.positional (before - 1) then withPoint digits before
  else
    let tail := digits.drop 1
    digits.take 1 ++ (if tail.isEmpty then [] else '.' :: tail) ++
      'e' :: layout.exponentText (before - 1)

/-- A floating-point number under a layout; the zero keeps its sign. -/
def Layout.render (layout : Layout) (x : Float) : List Char :=
  if x.isNaN then ['N', 'a', 'N']
  else
    let negative := 2 ^ 63 ≤ x.toBits.toNat
    let body :=
      if x.isInf then ['i', 'n', 'f']
      else layout.write ((Magnitude.ofBits x.toBits).shortest layout.tie)
    if negative then '-' :: body else body

end DialogueFlow.Decimal
