/-
  Remainder and quotient of floating-point division, computed exactly on the binary magnitudes.
-/
import DialogueFlow.Decimal.Shortest

namespace DialogueFlow.Decimal

/-- The remainder of a division that truncates; it has the sign of the dividend. -/
def remainder (x y : Float) : Float :=
  if x.isNaN || y.isNaN || x.isInf || y == 0.0 then 0.0 / 0.0
  else if y.isInf then x
  else
    let a := Magnitude.ofBits x.toBits
    let b := Magnitude.ofBits y.toBits
    let scale := min a.scale b.scale
    let units := a.units * 2 ^ (a.scale - scale).toNat % (b.units * 2 ^ (b.scale - scale).toNat)
    let rest := Float.ofScientific (units * 2 ^ scale.toNat * 5 ^ (-scale).toNat) true (-scale).toNat
    if 2 ^ 63 ≤ x.toBits.toNat then -rest else rest

/-- The float without its fraction. -/
def truncated (x : Float) : Float := if x < 0.0 then x.ceil else x.floor

/-- The whole quotient that leaves a remainder that is not negative. -/
def quotient (x y : Float) : Float :=
  let whole := truncated (x / y)
  if remainder x y < 0.0 then (if y > 0.0 then whole - 1.0 else whole + 1.0) else whole

example : remainder (-7.5) 2.0 = -1.5 := by decide +kernel

example : remainder 5.5 (-2.0) = 1.5 := by decide +kernel

end DialogueFlow.Decimal
