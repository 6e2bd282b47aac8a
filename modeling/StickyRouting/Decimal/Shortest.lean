/-!
# The shortest decimal of a binary fraction

A positive binary64 value is `significand * 2 ^ exponent`. Every real number between the two
midpoints towards its neighbours rounds to it; the midpoints themselves do so exactly when the
significand is even. Among the decimals in this interval the one on the coarsest grid of
multiples of a power of ten has the fewest digits, and of two on the same grid the nearer one
is taken. All of it is exact arithmetic on natural numbers.
-/

namespace StickyRouting.Decimal

/-- The value `significand * 2 ^ exponent`, where `atPowerOfTwo` says that the neighbour below
is only half as far away as the one above. -/
structure BinaryFraction where
  significand : Nat
  exponent : Int
  atPowerOfTwo : Bool
  deriving DecidableEq, Repr

def leadingBit : Nat := 0x10000000000000

/-- The magnitude stored in the bits of a finite binary64 number. Eleven bits above the
significand hold the exponent. -/
def BinaryFraction.ofBits (bits : UInt64) : BinaryFraction :=
  let stored : Nat := bits.toNat / leadingBit % 0x800
  let fraction : Nat := bits.toNat % leadingBit
  if stored = 0 then ⟨fraction, -1074, false⟩
  else ⟨leadingBit + fraction, (stored : Int) - 1075, fraction = 0 && 1 < stored⟩

structure Scaled where
  digits : Nat
  exponent : Int
  deriving DecidableEq, Repr

/-- The interval of reals that round to a value, as numerators over one denominator. -/
structure RoundingInterval where
  low : Nat
  value : Nat
  high : Nat
  denominator : Nat
  closed : Bool
  deriving DecidableEq, Repr

/-- Numerators are counted in quarters of the last binary place, so that both midpoints are
whole. -/
def BinaryFraction.interval (fraction : BinaryFraction) : RoundingInterval :=
  let up := 1 <<< fraction.exponent.toNat
  { low := (4 * fraction.significand - (if fraction.atPowerOfTwo then 1 else 2)) * up
    value := 4 * fraction.significand * up
    high := (4 * fraction.significand + 2) * up
    denominator := 4 <<< (-fraction.exponent).toNat
    closed := fraction.significand % 2 = 0 }

def RoundingInterval.covers (interval : RoundingInterval) (numerator : Nat) : Bool :=
  if interval.closed then interval.low ≤ numerator && numerator ≤ interval.high
  else interval.low < numerator && numerator < interval.high

def RoundingInterval.inUnitsOf (interval : RoundingInterval) (exponent : Int) :
    RoundingInterval :=
  let shrink := Nat.pow 10 (-exponent).toNat
  { interval with
    low := interval.low * shrink
    value := interval.value * shrink
    high := interval.high * shrink
    denominator := interval.denominator * Nat.pow 10 exponent.toNat }

/-- The positive multiple of `10 ^ exponent` in the interval that is nearest to its value. Of
two that are equally near, the even one. -/
def RoundingInterval.multiple? (interval : RoundingInterval) (exponent : Int) : Option Nat :=
  let scaled := interval.inUnitsOf exponent
  let below := scaled.value / scaled.denominator
  let above := below + 1
  let rest := scaled.value % scaled.denominator
  let coversBelow := below ≠ 0 && scaled.covers (below * scaled.denominator)
  let coversAbove := scaled.covers (above * scaled.denominator)
  if coversBelow && coversAbove then
    if 2 * rest < scaled.denominator then some below
    else if scaled.denominator < 2 * rest then some above
    else if below % 2 = 0 then some below else some above
  else if coversBelow then some below
  else if coversAbove then some above
  else none

/-- Exponents of ten from the largest that a binary64 number can reach down to one below which
every such number has a multiple in its interval. -/
def gridExponents : List Int :=
  (List.range 660).map fun (step : Nat) => 309 - (step : Int)

/-- The shortest decimal that reads back as the given magnitude; zero for zero. -/
def shortest (fraction : BinaryFraction) : Scaled :=
  if fraction.significand = 0 then ⟨0, 0⟩
  else
    let found := gridExponents.findSome? fun exponent =>
      (fraction.interval.multiple? exponent).map fun digits => Scaled.mk digits exponent
    found.getD ⟨0, 0⟩

end StickyRouting.Decimal
