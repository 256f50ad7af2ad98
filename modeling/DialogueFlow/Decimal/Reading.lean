/-
  Reading a decimal whose significand is kept in 64 bits. Digits join the significand while it
  fits; later ones only move the point. The value is the significand as a float, multiplied or
  divided by a power of ten, so long decimals may differ from the nearest float in the last place.
-/
import DialogueFlow.Power

namespace DialogueFlow.Decimal

/-- The value of a decimal digit. -/
def digitValue (c : Char) : Nat := c.toNat - '0'.toNat

/-- Joins digits to a significand while it stays below `2 ^ 64`; also the digits left over. -/
def takeDigits : Nat → List Char → Nat × List Char
  | significand, [] => (significand, [])
  | significand, c :: rest =>
    let next := significand * 10 + digitValue c
    if next < 2 ^ 64 then takeDigits next rest else (significand, c :: rest)

/-- Repeated division by `10 ^ 308` until the exponent is in range; four rounds reach zero. -/
def scaleDown : Nat → Float → Nat → Float
  | 0, x, _ => x
  | fuel + 1, x, exponent =>
    if exponent ≤ 308 then x / Float.ofScientific 1 false exponent
    else if x == 0.0 then x
    else scaleDown fuel (x / 1e308) (exponent - 308)

/-- `significand · 10 ^ exponent`, or nothing where that is beyond the largest float. -/
def scaledFloat? (significand : Nat) (exponent : Int) : Option Float :=
  let x := Float.ofScientific significand false 0
  if exponent < 0 then some (scaleDown 4 x exponent.natAbs)
  else if exponent ≤ 308 then
    let y := x * Float.ofScientific 1 false exponent.toNat
    if y.isInf then none else some y
  else if significand = 0 then some x
  else none

/-- The largest exponent that is read digit by digit. -/
def exponentLimit : Nat := 2 ^ 31 - 1

/-- The float with these integer, fraction and exponent digits, or nothing if it is too large. -/
def readFloat? (whole fraction : List Char) (negativeExponent : Bool) (exponent : List Char) :
    Option Float :=
  let (significand, extra) := takeDigits 0 whole
  let (significand', rest) := takeDigits significand fraction
  let point : Int := (extra.length : Int) - (fraction.length - rest.length : Nat)
  let written := exponent.foldl (fun n c => n * 10 + digitValue c) 0
  if exponentLimit < written then
    if significand' ≠ 0 ∧ !negativeExponent then none else some 0.0
  else
    scaledFloat? significand' (if negativeExponent then point - written else point + written)

example : readFloat? ['1'] ['5'] false ['2'] = some 150.0 := by decide +kernel

example : readFloat? ['1'] [] false ['4', '0', '0'] = none := by decide +kernel

end DialogueFlow.Decimal
