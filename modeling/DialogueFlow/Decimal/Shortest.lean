/-
  The shortest decimal that reads back to a binary floating-point value. A finite value stands for
  the reals that round to it; of all decimals among them those with the fewest digits are taken,
  and of these the nearest. All arithmetic is exact.
-/
import DialogueFlow.Power

namespace DialogueFlow.Decimal

/-- A finite value `units · 2 ^ scale`, sign aside. -/
structure Magnitude where
  units : Nat
  scale : Int
  /-- The gap to the value below is half the gap to the value above. -/
  narrow : Bool

/-- The magnitude that the bits of a finite value stand for. -/
def Magnitude.ofBits (bits : UInt64) : Magnitude :=
  let exponent : Nat := bits.toNat / 2 ^ 52 % 2 ^ 11
  let fraction : Nat := bits.toNat % 2 ^ 52
  if exponent = 0 then ⟨fraction, -1074, false⟩
  else ⟨2 ^ 52 + fraction, (exponent : Int) - 1075, fraction = 0 ∧ 1 < exponent⟩

/-- A decimal `digits · 10 ^ exponent`. -/
structure Scaled where
  digits : Nat
  exponent : Int
  deriving Repr, DecidableEq

/-- Which of two equally near decimals is taken. -/
inductive Tie where
  | even
  | up
  deriving Repr, DecidableEq

/-- The exact order of a decimal and a binary magnitude `units · 2 ^ scale`. -/
def Scaled.compareTo (d : Scaled) (units : Nat) (scale : Int) : Ordering :=
  compare (d.digits * 10 ^ d.exponent.toNat * 2 ^ (-scale).toNat)
    (units * 2 ^ scale.toNat * 10 ^ (-d.exponent).toNat)

/-- The decimal lies among the reals that round to `x`; the two ends round to the even mantissa. -/
def Magnitude.readsBack (x : Magnitude) (d : Scaled) : Bool :=
  let closed := x.units % 2 == 0
  let below := if x.narrow then 4 * x.units - 1 else 4 * x.units - 2
  let low := d.compareTo below (x.scale - 2)
  let high := d.compareTo (4 * x.units + 2) (x.scale - 2)
  (low == .gt || closed && low == .eq) && (high == .lt || closed && high == .eq)

/-- The whole number of steps `10 ^ exponent` below `x`. -/
def Magnitude.stepsBelow (x : Magnitude) (exponent : Int) : Nat :=
  x.units * 2 ^ x.scale.toNat * 10 ^ (-exponent).toNat /
    (2 ^ (-x.scale).toNat * 10 ^ exponent.toNat)

/-- The least `k` with `x < 10 ^ k`, for a value other than zero. -/
def Magnitude.decimalPoint (x : Magnitude) : Int :=
  let guess := (x.units.log2 + x.scale) * 30103 / 100000
  let candidates := [guess - 1, guess, guess + 1]
  match candidates.find? fun k => (Scaled.mk 1 k).compareTo x.units x.scale == .gt with
  | some k => k
  | none => guess + 2

/-- The decimal with steps `10 ^ exponent` that reads back, the nearest where both neighbours do. -/
def Magnitude.onGrid (x : Magnitude) (tie : Tie) (exponent : Int) : Option Scaled :=
  let steps := x.stepsBelow exponent
  let low : Scaled := ⟨steps, exponent⟩
  let high : Scaled := ⟨steps + 1, exponent⟩
  match x.readsBack low, x.readsBack high with
  | false, false => none
  | true, false => some low
  | false, true => some high
  | true, true =>
    match (Scaled.mk (2 * steps + 1) exponent).compareTo (2 * x.units) x.scale with
    | .lt => some high
    | .gt => some low
    | .eq => some (if tie = .even ∧ steps % 2 = 0 then low else high)

/-- Moves trailing zeros of the digits into the exponent, at most `fuel` of them. -/
def Scaled.stripped : Nat → Scaled → Scaled
  | 0, d => d
  | fuel + 1, d =>
    if d.digits ≠ 0 ∧ d.digits % 10 = 0 then stripped fuel ⟨d.digits / 10, d.exponent + 1⟩ else d

/-- Every decimal place of the value, for the case that no short decimal reads back. -/
def Magnitude.exact (x : Magnitude) : Scaled :=
  ⟨x.units * 2 ^ x.scale.toNat * 5 ^ (-x.scale).toNat, -(-x.scale).toNat⟩

/-- The shortest decimal that reads back to `x`; seventeen digits always suffice. -/
def Magnitude.shortest (x : Magnitude) (tie : Tie) : Scaled :=
  if x.units = 0 then ⟨0, 0⟩
  else
    let point := x.decimalPoint
    match (List.range 17).findSome? fun (n : Nat) => x.onGrid tie (point - (n + 1)) with
    | some d => d.stripped 17
    | none => x.exact

example : (Magnitude.ofBits (0.1 : Float).toBits).shortest .even = ⟨1, -1⟩ := by decide +kernel

example : (Magnitude.ofBits (1e23 : Float).toBits).shortest .even = ⟨1, 23⟩ := by decide +kernel

example : (Magnitude.ofBits 1).shortest .even = ⟨5, -324⟩ := by decide +kernel

end DialogueFlow.Decimal
