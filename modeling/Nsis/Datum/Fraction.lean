import Nsis.Fault
import Nsis.Text.Fraction

/-!
# Numbers with fractions

Binary fractions next to whole numbers: which whole numbers are fractions too, how the two compare,
and how fractions are rounded and divided.

## Main definitions

* `Nsis.Fraction.ofInt` — a whole number as a fraction.
* `Nsis.Fraction.parts` — a fraction as a quotient of whole numbers.
* `Nsis.Fraction.compare` — the order of two fractions.
* `Nsis.Fraction.divide` — the quotient of two whole numbers.
-/

namespace Nsis.Fraction

/-- Whether a fraction is a number and finite. -/
def isFinite (x : Float) : Bool :=
  !x.isNaN && !x.isInf

/-- The fraction nearest to a quotient of whole numbers, of which the second one is not zero. The
quotient is taken to so many bits that what is left over only decides between two neighbours. -/
def nearest (m n : Nat) : Float :=
  if m = 0 then 0
  else
    let k : Int := (n.log2 : Int) - m.log2 + 62
    let (m, n) := (m * Nat.pow 2 k.toNat, n * Nat.pow 2 (-k).toNat)
    let q := m / n
    let q := if m % n = 0 || q % 2 = 1 then q else q + 1
    Float.scaleB (Float.ofNat q) (-k)

/-- The fraction with a sign. -/
def signed (isNegative : Bool) (x : Float) : Float :=
  if isNegative then -x else x

/-- A whole number as a fraction, unless it is too large. -/
def ofInt (n : Int) : Except Fault Float :=
  let x := signed (n < 0) (nearest n.natAbs 1)
  if x.isInf then .error (.misuse (.numeric .hugeForFraction)) else .ok x

/-- The fraction that a decimal mantissa and exponent stand for. -/
def ofDecimal (mantissa : Nat) (exponent : Int) : Float :=
  if mantissa = 0 || exponent < -100000 then 0
  else Float.ofScientific mantissa (exponent < 0) (min exponent.natAbs 100000)

/-- A finite fraction as a numerator and a positive denominator. -/
def parts (x : Float) : Int × Nat :=
  let (n, d) := (Text.Binary.ofFloat x).scaled 0
  (if x < 0 then -(n : Int) else n, d)

/-- The whole number below a finite fraction. -/
def floor (x : Float) : Int :=
  let (n, d) := parts x
  Int.fdiv n d

/-- A finite fraction without what is behind its point. -/
def truncated (x : Float) : Int :=
  let (n, d) := parts x
  Int.tdiv n d

/-- The whole number nearest to a finite fraction; of two that are as near, the even one. -/
def rounded (x : Float) : Int :=
  let (n, d) := parts x
  let low := Int.fdiv n d
  let half := 2 * (n - low * d)
  if half < d || (half = d && low % 2 = 0) then low else low + 1

/-- Why a fraction is no whole number, not even after rounding. -/
def wholeFault (x : Float) : Fault :=
  .misuse (if x.isNaN then (.numeric .noNumber) else (.numeric .infinite))

/-- A fraction as a whole number, by a way of rounding. -/
def toInt (rounding : Float → Int) (x : Float) : Except Fault Int :=
  if isFinite x then .ok (rounding x) else .error (wholeFault x)

/-- The order of a whole number and a fraction, unless the fraction is no number. -/
def compareInt (n : Int) (x : Float) : Option Ordering :=
  if x.isNaN then none
  else if x.isInf then some (if x < 0 then .gt else .lt)
  else
    let (m, d) := parts x
    some (Ord.compare (n * d) m)

/-- The order of two fractions, if both are numbers. -/
def compare (x y : Float) : Option Ordering :=
  if x < y then some .lt
  else if y < x then some .gt
  else if x == y then some .eq
  else none

/-- Whether a fraction has a minus sign, which zero may have too. -/
def isMinus (x : Float) : Bool :=
  0x8000000000000000 ≤ x.toBits

/-- What is left of a fraction when another one, which is not zero, is taken from it as often as it
fits in; it has the sign of the first one. -/
def rest (x y : Float) : Float :=
  if !isFinite x || y.isNaN then 0 / 0
  else if y.isInf then x
  else
    let (a, d) := parts x
    let (b, e) := parts y
    signed (x < 0) (nearest (Int.tmod (a * e) (b * d)).natAbs (d * e))

/-- How many times a fraction is contained in another one, and the remainder, which has the sign of
the divisor. -/
def divMod (x y : Float) : Float × Float :=
  let r := rest x y
  let q := (x - r) / y
  let (q, r) := if r == 0 then (q, signed (isMinus y) 0)
    else if (y < 0) != (r < 0) then (q - 1, r + y)
    else (q, r)
  if q == 0 then (signed (isMinus (x / y)) 0, r)
  else
    let low := q.floor
    (if 0.5 < q - low then low + 1 else low, r)

/-- The length of the diagonal of a rectangle, where the first side is not the shorter one. The root
is mended by the difference between its square and that of the sides. -/
def diagonalOf (x y : Float) : Float :=
  let h := (x * x + y * y).sqrt
  let (s, t) := if h ≤ 2 * y then
      let d := h - y
      (x * (2 * d - x), (d - 2 * (x - y)) * d)
    else
      let d := h - x
      (2 * d * (x - 2 * y), (4 * d - y) * y + d * d)
  h - (s + t) / (2 * h)

/-- The length of the diagonal of a rectangle. -/
def diagonal (x y : Float) : Float :=
  let (x, y) := (x.abs, y.abs)
  let (x, y) := if x < y then (y, x) else (x, y)
  if x.isInf || y.isInf then 1 / 0
  else if x.isNaN || y.isNaN then 0 / 0
  else if y == 0 then x
  else if Float.scaleB 1 511 < x then
    Float.scaleB (diagonalOf (Float.scaleB x (-600)) (Float.scaleB y (-600))) 600
  else if y < Float.scaleB 1 (-459) then
    Float.scaleB (diagonalOf (Float.scaleB x 600) (Float.scaleB y 600)) (-600)
  else diagonalOf x y

/-- The quotient of two whole numbers, of which the second one is not zero. -/
def divide (m n : Int) : Except Fault Float :=
  let x := signed ((m < 0) != (n < 0)) (nearest m.natAbs n.natAbs)
  if x.isInf then .error (.misuse (.numeric .hugeQuotient)) else .ok x

end Nsis.Fraction
