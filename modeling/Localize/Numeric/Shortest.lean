import Localize.Numeric.Binary64

/-! # Shortest decimal text of binary64 numbers

A nonzero finite number is written with the fewest significant decimal digits that still read
back as that number. The values that read back as it form an interval around it, reaching
halfway to its neighbours; the halfway points belong to it when its mantissa is even, since
ties round to the even mantissa. Just above a power of two, the lower neighbour is twice as
close as the upper one, except at the smallest normal number. Among the shortest decimals in
the interval the one nearest the number is taken, ties to an even last digit.

The text has the decimal point in place when the number has at most sixteen digits before
the point, and at most four zeros right after it when it is below one. An integral number
then ends in `.0`, as in `9007199254740994.0` and `0.0001`. Other numbers are written in
scientific form with a signed exponent, `1e+16` or `1.5e-7`. A zero is `0.0` or `-0.0`.
-/

namespace Localize

namespace Binary64

/-- The fraction `num / den` divided by `10 ^ q`, as a numerator and a denominator. -/
def scaledBy (num den : Nat) (q : Int) : Nat × Nat :=
  if 0 ≤ q then (num, den * Nat.pow 10 q.toNat) else (num * Nat.pow 10 (-q).toNat, den)

/-- `⌊log₁₀ (num / den)⌋` for positive `num` and `den`: estimated from the binary logarithm,
whose error is below two, then corrected by comparing with powers of ten. -/
def floorLog10 (num den : Nat) : Int :=
  up 4 (down 4 (floorLog2 num den * 30103 / 100000))
where
  /-- Whether `10 ^ q ≤ num / den`. -/
  atLeast (q : Int) : Bool :=
    let (a, b) := scaledBy num den q
    b ≤ a
  /-- Lowers `k` until `10 ^ k ≤ num / den`. -/
  down : Nat → Int → Int
    | 0, k => k
    | fuel + 1, k => if atLeast k then k else down fuel (k - 1)
  /-- Raises `k` while `10 ^ (k + 1) ≤ num / den`. -/
  up : Nat → Int → Int
    | 0, k => k
    | fuel + 1, k => if atLeast (k + 1) then up fuel (k + 1) else k

/-- The interval of values that read back as a nonzero number, with numerators over a common
denominator: the lower bound, the number, the upper bound, the denominator, and whether the
bounds themselves read back as the number. -/
def interval (x : Binary64) : Nat × Nat × Nat × Nat × Bool :=
  let m := x.mantissa
  let lowerGap := if m = Nat.pow 2 52 ∧ x.exponent > minExponent then 1 else 2
  let e := x.exponent - 2
  let scale := if 0 ≤ e then Nat.pow 2 e.toNat else 1
  let den := if 0 ≤ e then 1 else Nat.pow 2 (-e).toNat
  ((4 * m - lowerGap) * scale, 4 * m * scale, (4 * m + 2) * scale, den, m % 2 == 0)

/-- The least and the greatest `d` with `d × 10 ^ q` between `lo / den` and `hi / den`,
bounds included when `inclusive`; there is none when the least exceeds the greatest. -/
def candidates (lo hi den : Nat) (inclusive : Bool) (q : Int) : Nat × Nat :=
  let (l, dl) := scaledBy lo den q
  let (h, dh) := scaledBy hi den q
  let least := if inclusive then (l + dl - 1) / dl else l / dl + 1
  let greatest := if inclusive || h % dh != 0 then h / dh else h / dh - 1
  (least, greatest)

/-- The shortest decimal `(d, q)`, meaning `d × 10 ^ q`, in the interval of a nonzero number,
nearest to it: the first power `q`, going down from one above the number's leading digit,
with a multiple of `10 ^ q` in the interval. Seventeen significant digits always suffice, so
the search ends within its nineteen steps. -/
def shortest (x : Binary64) : Nat × Int :=
  let (lo, v, hi, den, inclusive) := x.interval
  search lo v hi den inclusive 19 (floorLog10 v den + 1)
where
  /-- Tries the powers from `10 ^ q` down. -/
  search (lo v hi den : Nat) (inclusive : Bool) : Nat → Int → Nat × Int
    | 0, q => (v / den, q)
    | fuel + 1, q =>
      let (least, greatest) := candidates lo hi den inclusive q
      if least ≤ greatest then
        let (a, b) := scaledBy v den q
        (min (max (roundHalfEven a b) least) greatest, q)
      else search lo v hi den inclusive fuel (q - 1)

/-- The text of the decimal digits `ds`, without trailing zeros, times `10 ^ q`. -/
def layout (ds : List Char) (q : Int) : String :=
  let point : Int := ds.length + q
  if 0 ≤ q ∧ point ≤ 16 then
    String.ofList ds ++ String.ofList (List.replicate q.toNat '0') ++ ".0"
  else if 0 < point ∧ point ≤ 16 then
    String.ofList (ds.take point.toNat) ++ "." ++ String.ofList (ds.drop point.toNat)
  else if -5 < point ∧ point ≤ 0 then
    "0." ++ String.ofList (List.replicate (-point).toNat '0') ++ String.ofList ds
  else
    let power := point - 1
    let lead := match ds with
      | d :: rest@(_ :: _) => d :: '.' :: rest
      | _ => ds
    String.ofList lead ++ "e" ++ (if power < 0 then "-" else "+") ++ toString power.natAbs

/-- The shortest text of a number. -/
def text (x : Binary64) : String :=
  let sign := if x.negative then "-" else ""
  if x.mantissa = 0 then sign ++ "0.0"
  else
    let (d, q) := x.shortest
    sign ++ layout (toString d).toList q

end Binary64

end Localize
