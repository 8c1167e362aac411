/-!
Floating-point numbers of a document as exact values `mantissa * 2 ^ exponent`, the nearest one to
a decimal, and the shortest decimal that is nearest to one.
-/

namespace StrictFiles

/-- A finite floating-point number of 64 bits. The mantissa is below `2 ^ 53`, the exponent at least
`-1074`, and a mantissa below `2 ^ 52` has that least exponent. -/
structure Binary64 where
  negative : Bool
  mantissa : Nat
  exponent : Int
  deriving DecidableEq

namespace Binary64

/-- The quotient rounded to the nearest whole number, a half to the even one. -/
def roundDiv (num den : Nat) : Nat :=
  let q := num / den
  let twice := 2 * (num % den)
  if twice < den then q
  else if den < twice then q + 1
  else q + q % 2

/-- Numerator and denominator of `num / den` divided by `2 ^ exponent`. -/
def scaleBy (num den : Nat) (exponent : Int) : Nat × Nat :=
  (num * Nat.pow 2 (-exponent).toNat, den * Nat.pow 2 exponent.toNat)

/-- The nearest number to `num / den`, or `none` when it lies past the greatest. -/
def ofRatio? (negative : Bool) (num den : Nat) : Option Binary64 :=
  let guess : Int := (num.log2 : Int) - (den.log2 : Int) - 53
  let (n, d) := scaleBy num den guess
  let exponent := max (-1074) (if n / d < 0x20000000000000 then guess else guess + 1)
  let (n, d) := scaleBy num den exponent
  let mantissa := roundDiv n d
  let (mantissa, exponent) :=
    if mantissa = 0x20000000000000 then (0x10000000000000, exponent + 1) else (mantissa, exponent)
  if 971 < exponent then none else some ⟨negative, mantissa, exponent⟩

/-- The number of decimal digits. -/
def decimalLength (n : Nat) : Nat :=
  (Nat.toDigits 10 n).length

/-- The nearest number to `digits * 10 ^ exponent`. Decimals out of every bound are settled by their
length alone, so that no huge power is computed. -/
def ofDecimal? (negative : Bool) (digits : Nat) (exponent : Int) : Option Binary64 :=
  let size := (decimalLength digits : Int) + exponent
  if digits = 0 ∨ size < -330 then some ⟨negative, 0, -1074⟩
  else if 310 < size then none
  else ofRatio? negative (digits * Nat.pow 10 exponent.toNat) (Nat.pow 10 (-exponent).toNat)

/-- A decimal fraction `0.d₁d₂… * 10 ^ point`, its digits as one number. -/
structure Decimal where
  digits : Nat
  point : Int
  deriving DecidableEq

/-- Over a common denominator: the value, and the interval of the reals that round to it. The
neighbour below a power of two is only half as far away as the one above. -/
structure Bounds where
  value : Nat
  low : Nat
  high : Nat
  den : Nat

def bounds (x : Binary64) : Bounds :=
  let up := Nat.pow 2 x.exponent.toNat
  let value := 4 * x.mantissa * up
  let narrow := x.mantissa = 0x10000000000000 ∧ -1074 < x.exponent
  ⟨value, value - (if narrow then 1 else 2) * up, value + 2 * up, 4 * Nat.pow 2 (-x.exponent).toNat⟩

/-- The number of digits before the decimal point of `num / den`, negative when zeros follow it. -/
def pointOf (num den : Nat) : Int :=
  if den ≤ num then decimalLength (num / den)
  else 1 - (decimalLength ((den + num - 1) / num - 1) : Int)

/-- The nearest decimal of `count` digits that rounds to `x`, if there is one. -/
def decimalOf? (x : Binary64) (b : Bounds) (point : Int) (count : Nat) : Option Nat :=
  let unit := point - count
  let up := Nat.pow 10 (-unit).toNat
  let grid := Nat.pow 10 unit.toNat * b.den
  let inside (k : Nat) : Bool :=
    if x.mantissa % 2 = 0 then b.low * up ≤ k * grid ∧ k * grid ≤ b.high * up
    else b.low * up < k * grid ∧ k * grid < b.high * up
  let below := b.value * up / grid
  let nearest := roundDiv (b.value * up) grid
  let other := if nearest = below then below + 1 else below
  if inside nearest then some nearest
  else if inside other then some other
  else none

/-- The decimal with the fewest digits that rounds to a number other than zero; of several, the
nearest. Seventeen digits always suffice. -/
def shortest (x : Binary64) : Decimal :=
  let b := x.bounds
  let point := pointOf b.value b.den
  let found := (List.range 17).findSome? fun i =>
    (decimalOf? x b point (i + 1)).map fun digits => (i + 1, digits)
  match found with
  | some (count, digits) => ⟨digits, point + (decimalLength digits : Int) - (count : Int)⟩
  | none => ⟨0, 1⟩

end Binary64

/-- How decimals are laid out: the exponents of the first digit that are written positionally. -/
structure DecimalLayout where
  leastPlain : Int
  greatestPlain : Int

namespace DecimalLayout

/-- Digits with a point behind the first `whole` of them and at least one digit on each side. -/
def positional (digits : List Char) (whole : Int) : List Char :=
  if whole ≤ 0 then ['0', '.'] ++ List.replicate (-whole).toNat '0' ++ digits
  else
    let before := digits.take whole.toNat
    let after := digits.drop whole.toNat
    before ++ List.replicate (whole.toNat - digits.length) '0' ++
      '.' :: (if after.isEmpty then ['0'] else after)

/-- One digit, the others behind a point, and the exponent with its sign. -/
def scientific (digits : List Char) (exponent : Int) : List Char :=
  let tail := digits.drop 1
  digits.take 1 ++ (if tail.isEmpty then [] else '.' :: tail) ++
    ['e', if exponent < 0 then '-' else '+'] ++ Nat.toDigits 10 exponent.natAbs

def write (layout : DecimalLayout) (x : Binary64) : List Char :=
  let sign := if x.negative then ['-'] else []
  if x.mantissa = 0 then sign ++ ['0', '.', '0']
  else
    let decimal := x.shortest
    let digits := (Nat.toDigits 10 decimal.digits).reverse.dropWhile (· = '0') |>.reverse
    let exponent := decimal.point - 1
    sign ++ if layout.leastPlain ≤ exponent ∧ exponent ≤ layout.greatestPlain
      then positional digits decimal.point
      else scientific digits exponent

end DecimalLayout

end StrictFiles
