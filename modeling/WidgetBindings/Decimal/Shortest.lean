/-!
# The shortest decimal for a binary fraction

A finite 64-bit float stands for `mantissa * 2 ^ exponent`. Every real number nearer to it than to
its neighbours reads back as the same float; the shortest decimal is the one with the fewest digits
among those, and of several the nearest to the float. All arithmetic is exact.
-/

namespace WidgetBindings.Decimal

/-- The decimal `digits * 10 ^ exponent`. -/
structure Scaled where
  digits : Nat
  exponent : Int
  deriving DecidableEq, Repr

/-- A positive float and the distances to the ends of the reals that round to it. All are counted in
units of `numerator / denominator`, a quarter of the last binary place. -/
structure Neighbourhood where
  centre : Nat
  below : Nat
  above : Nat
  /-- Whether the two ends round to the float as well. -/
  closed : Bool
  numerator : Nat
  denominator : Nat

/-- The bit of a float that tells a negative one. -/
def signBit : Nat := 0x8000000000000000

/-- The first number that the bits of a fraction do not hold. -/
def fractionLimit : Nat := 0x10000000000000

/-- The first number that the bits of an exponent do not hold. -/
def exponentLimit : Nat := 0x800

/-- The neighbourhood of the float with the given bits. The sign bit is not looked at. -/
def Neighbourhood.ofBits (bits : UInt64) : Neighbourhood :=
  let fraction := bits.toNat % fractionLimit
  let biased := bits.toNat / fractionLimit % exponentLimit
  let mantissa := if biased = 0 then fraction else fractionLimit + fraction
  let exponent : Nat := if biased = 0 then 1 else biased
  { centre := 4 * mantissa
    below := if fraction = 0 ∧ 1 < biased then 1 else 2
    above := 2
    closed := mantissa % 2 = 0
    numerator := Nat.pow 2 (exponent - 1077)
    denominator := Nat.pow 2 (1077 - exponent) }

/-- Whether `digits * up / down` lies in the neighbourhood. -/
def Neighbourhood.contains (n : Neighbourhood) (digits up down : Nat) : Bool :=
  let value := digits * up * n.denominator
  let low := (n.centre - n.below) * n.numerator * down
  let high := (n.centre + n.above) * n.numerator * down
  if n.closed then low ≤ value ∧ value ≤ high else low < value ∧ value < high

/-- The number of decimal places by which `numerator / denominator` has to be moved to reach one. At
most `fuel` places are tried. -/
def placesToOne : (fuel numerator denominator : Nat) → Nat
  | 0, _, _ => 0
  | fuel + 1, numerator, denominator =>
    if denominator ≤ numerator then 0 else 1 + placesToOne fuel (10 * numerator) denominator

/-- The power of ten at or below the centre. -/
def Neighbourhood.magnitude (n : Neighbourhood) : Int :=
  let numerator := n.centre * n.numerator
  if n.denominator ≤ numerator then
    ((Nat.toDigits 10 (numerator / n.denominator)).length : Int) - 1
  else -(placesToOne 400 numerator n.denominator : Int)

/-- The decimal in the neighbourhood that lies on the grid of `10 ^ exponent` and is nearest to the
centre. Of two that are equally near, the one with even digits is taken. -/
def Neighbourhood.onGrid? (n : Neighbourhood) (exponent : Int) : Option Nat :=
  let up := Nat.pow 10 exponent.toNat
  let down := Nat.pow 10 (-exponent).toNat
  let centre := n.centre * n.numerator * down
  let step := up * n.denominator
  let lower := centre / step
  let distance := centre % step
  match n.contains lower up down, n.contains (lower + 1) up down with
  | false, false => none
  | true, false => some lower
  | false, true => some (lower + 1)
  | true, true =>
    if 2 * distance < step ∨ (2 * distance = step ∧ lower % 2 = 0) then some lower
    else some (lower + 1)

/-- The first grid, from `exponent` on to finer ones, that has a decimal in the neighbourhood. -/
def Neighbourhood.search (n : Neighbourhood) : (fuel : Nat) → (exponent : Int) → Scaled
  | 0, exponent => ⟨n.centre, exponent⟩
  | fuel + 1, exponent =>
    match n.onGrid? exponent with
    | some digits => ⟨digits, exponent⟩
    | none => n.search fuel (exponent - 1)

/-- Takes zeros off the end of the digits, at most `fuel` of them. -/
def Scaled.trim : (fuel : Nat) → Scaled → Scaled
  | 0, d => d
  | fuel + 1, d =>
    if d.digits ≠ 0 ∧ d.digits % 10 = 0 then Scaled.trim fuel ⟨d.digits / 10, d.exponent + 1⟩ else d

/-- The shortest decimal that reads back as the float with the given bits, sign apart. Seventeen
digits are always enough. -/
def shortest (bits : UInt64) : Scaled :=
  if bits.toNat % signBit = 0 then ⟨0, 0⟩
  else
    let n := Neighbourhood.ofBits bits
    Scaled.trim 20 (n.search 17 n.magnitude)

end WidgetBindings.Decimal
