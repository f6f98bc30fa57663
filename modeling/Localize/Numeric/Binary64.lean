/-! # Binary64 numbers

A finite IEEE 754 binary64 number is a sign and a magnitude `mantissa × 2 ^ exponent`. The
numbers built here keep `mantissa < 2 ^ 53` and `-1074 ≤ exponent ≤ 971`, with
`mantissa ≥ 2 ^ 52` whenever `exponent > -1074`; below that the exponent stays at `-1074`
(the subnormal numbers and zero). So each value has one representation, apart from the sign
of zero, and the largest finite magnitude is `(2 ^ 53 - 1) × 2 ^ 971`.

Arithmetic works on the exact fractions and rounds once, to the nearest representable
magnitude with ties to an even mantissa, as the standard's default rounding does. A result
that rounds past the largest finite magnitude is an overflow: `none`, where hardware would
give an infinity.
-/

namespace Localize

/-- A finite binary64 number: `(-1) ^ negative × mantissa × 2 ^ exponent`. -/
structure Binary64 where
  negative : Bool
  mantissa : Nat
  exponent : Int
deriving Repr, DecidableEq, Inhabited

namespace Binary64

/-- The exponent of the subnormal numbers and of zero. -/
def minExponent : Int := -1074

/-- The largest exponent of a finite number. -/
def maxExponent : Int := 971

/-- Zero with the given sign. -/
def zero (negative : Bool) : Binary64 := ⟨negative, 0, minExponent⟩

/-- Whether the number is a zero of either sign. -/
def isZero (x : Binary64) : Bool := x.mantissa == 0

/-- `a / b` rounded to the nearest natural number, ties to the even one. -/
def roundHalfEven (a b : Nat) : Nat :=
  let q := a / b
  let r := a % b
  if 2 * r > b then q + 1 else if 2 * r = b then q + q % 2 else q

/-- The fraction `num / den` divided by `2 ^ e`, as a numerator and a denominator. -/
def shiftRatio (num den : Nat) (e : Int) : Nat × Nat :=
  if 0 ≤ e then (num, den * Nat.pow 2 e.toNat) else (num * Nat.pow 2 (-e).toNat, den)

/-- `⌊log₂ (num / den)⌋` for positive `num` and `den`: the difference of their bit lengths,
one less when the quotient falls short of that power of two (it is never more). -/
def floorLog2 (num den : Nat) : Int :=
  let e : Int := (num.log2 : Int) - (den.log2 : Int)
  let (a, b) := shiftRatio num den e
  if a < b then e - 1 else e

/-- The number nearest to `num / den` (for `den > 0`) with the given sign, ties to an even
mantissa, or `none` when the magnitude rounds past the largest finite number. The exponent
gives the mantissa 53 bits, or is the subnormal exponent for small magnitudes; a mantissa
that rounds up to `2 ^ 53` moves to the next exponent. A magnitude below half the smallest
subnormal number rounds to zero. -/
def round (negative : Bool) (num den : Nat) : Option Binary64 :=
  if num = 0 then some (zero negative)
  else
    let e := max (floorLog2 num den - 52) minExponent
    let (a, b) := shiftRatio num den e
    let m := roundHalfEven a b
    let (m, e) := if m = Nat.pow 2 53 then (Nat.pow 2 52, e + 1) else (m, e)
    if e > maxExponent then none else some ⟨negative, m, e⟩

/-- The magnitude of a number as a fraction: a numerator and a power of two below it. -/
def ratio (x : Binary64) : Nat × Nat :=
  if 0 ≤ x.exponent then (x.mantissa * Nat.pow 2 x.exponent.toNat, 1)
  else (x.mantissa, Nat.pow 2 (-x.exponent).toNat)

/-- The natural number `n` with the given sign, rounded. -/
def ofNat (negative : Bool) (n : Nat) : Option Binary64 := round negative n 1

/-- The rounded product, or `none` on overflow. -/
def mul (x y : Binary64) : Option Binary64 :=
  let (a, b) := x.ratio
  let (c, d) := y.ratio
  round (x.negative != y.negative) (a * c) (b * d)

/-- The rounded quotient by a nonzero `y`, or `none` on overflow. -/
def div (x y : Binary64) : Option Binary64 :=
  let (a, b) := x.ratio
  let (c, d) := y.ratio
  round (x.negative != y.negative) (a * d) (b * c)

end Binary64

end Localize

/-! ## Decimal numbers as binary64

A JSON number with a fraction or an exponent is read as a significand below `2 ^ 64` and a
power of ten, and becomes a binary64 number in steps that each round: the significand is
rounded first, then multiplied or divided by the nearest binary64 number to `10 ^ n` when
`n ≤ 308`. A larger negative power divides by `10 ^ 308` and tries again; a larger positive
power is out of range unless the significand is zero. So the result is not always the
binary64 number nearest to the decimal, and a reader has to follow these steps to agree with
the numbers such documents were read as.
-/

namespace Localize.Json

/-- `x × 10 ^ exponent`, rounded as the steps above round it, or `none` when it is out of
range. The fuel counts the divisions by `10 ^ 308`. -/
def scaleByPowerOfTen : Nat → Binary64 → Int → Option Binary64
  | 0, x, _ => some x
  | fuel + 1, x, exponent =>
    if exponent.natAbs ≤ 308 then
      (Binary64.ofNat false (Nat.pow 10 exponent.natAbs)).bind fun p =>
        if 0 ≤ exponent then x.mul p else x.div p
    else if x.isZero then some x
    else if 0 ≤ exponent then none
    else
      (Binary64.ofNat false (Nat.pow 10 308)).bind fun p =>
        (x.div p).bind fun y => scaleByPowerOfTen fuel y (exponent + 308)

/-- The non-negative number `significand × 10 ^ exponent` as read, or `none` when it is out
of range. The fuel suffices for every division by `10 ^ 308` the exponent calls for. -/
def decimalValue (significand : Nat) (exponent : Int) : Option Binary64 :=
  (Binary64.ofNat false significand).bind fun x =>
    scaleByPowerOfTen (exponent.natAbs / 308 + 1) x exponent

end Localize.Json
