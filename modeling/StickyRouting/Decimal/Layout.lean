import StickyRouting.Decimal.Shortest

/-!
# Writing a decimal

A binary64 number is written with the fewest digits that read back. It always shows that it is
not a whole number type: a value in positional notation has a point with at least one digit
after it. Very large and very small values are written with one digit before the point and an
exponent that always has a sign.
-/

namespace StickyRouting.Decimal

/-- Where positional notation ends. Both bounds are exponents of the leading digit and belong to
positional notation. -/
structure Layout where
  leastPositional : Int
  greatestPositional : Int
  deriving DecidableEq, Repr

/-- Numbers in messages are positional from `0.00001` up to sixteen digits before the point. -/
def messageLayout : Layout := ⟨-5, 15⟩

def digitsOf (number : Nat) : List Char :=
  Nat.toDigits 10 number

/-- The digits with a point after the first `leading + 1` of them; zeros fill the places that
the digits do not reach. -/
def positional (digits : List Char) (leading : Int) : List Char :=
  if leading < 0 then
    "0.".toList ++ List.replicate (-leading - 1).toNat '0' ++ digits
  else
    let whole := leading.toNat + 1
    if digits.length ≤ whole then
      digits ++ List.replicate (whole - digits.length) '0' ++ ".0".toList
    else
      digits.take whole ++ ['.'] ++ digits.drop whole

/-- The digits with a point after the first, if there is a second, and the exponent of the
leading digit. -/
def scientific (digits : List Char) (leading : Int) : List Char :=
  let fraction := digits.drop 1
  digits.take 1 ++ (if fraction.isEmpty then [] else '.' :: fraction) ++
    ['e', if leading < 0 then '-' else '+'] ++ digitsOf leading.natAbs

def Layout.magnitude (layout : Layout) (scaled : Scaled) : List Char :=
  let digits := digitsOf scaled.digits
  let leading := scaled.exponent + digits.length - 1
  if layout.leastPositional ≤ leading && leading ≤ layout.greatestPositional then
    positional digits leading
  else
    scientific digits leading

def Layout.write (layout : Layout) (bits : UInt64) : String :=
  let sign := if 0x8000000000000000 ≤ bits then ['-'] else []
  String.ofList (sign ++ layout.magnitude (shortest (.ofBits bits)))

end StickyRouting.Decimal
