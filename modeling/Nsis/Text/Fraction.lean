import Nsis.Text.Numeral

/-!
# Fractions

How binary fractions are written: with the fewest decimal digits that read back as the same number,
and of these the nearest ones. From ten thousandths up to sixteen digits before the point they are
written with a point, and else with an exponent of at least two digits.

## Main definitions

* `Nsis.Text.Binary` — a binary fraction by its mantissa and exponent.
* `Nsis.Text.shortest` — the fewest digits of a fraction, and where its point is.
* `Nsis.Text.fraction` — how a fraction is written.
-/

namespace Nsis.Text

/-- The size `mantissa · 2 ^ exponent` of a fraction. -/
structure Binary where
  mantissa : Nat
  exponent : Int

namespace Binary

/-- The size of a finite fraction, from its bits. -/
def ofFloat (x : Float) : Binary :=
  let bits := x.toBits.toNat
  let part := bits % 0x10000000000000
  let field := bits / 0x10000000000000 % 0x800
  if field = 0 then ⟨part, -1074⟩ else ⟨part + 0x10000000000000, (field : Int) - 1075⟩

/-- The fraction times `10 ^ k`, as a numerator and a denominator. -/
def scaled (b : Binary) (k : Int) : Nat × Nat :=
  (b.mantissa * Nat.pow 2 b.exponent.toNat * Nat.pow 10 k.toNat,
    Nat.pow 2 (-b.exponent).toNat * Nat.pow 10 (-k).toNat)

/-- The fraction rounded to zero. -/
def whole (b : Binary) : Nat :=
  let (n, d) := b.scaled 0
  n / d

/-- Whether the fraction has nothing behind its point. -/
def isWhole (b : Binary) : Bool :=
  let (n, d) := b.scaled 0
  n % d = 0

end Binary

/-- How many digits a number has before its point, or minus the number of zeros behind it. -/
def magnitude (b : Binary) : Int :=
  let (n, d) := b.scaled 0
  if d ≤ n then (digits 10 (n / d)).length
  else
    let k : Int := 1 - (digits 10 (d / n)).length
    if n * Nat.pow 10 (-k).toNat < d then k else k + 1

/-- The one of two candidates with `k` digits behind the point that reads back as `x`, and that is
nearer to it; of two that are as near, the even one. -/
def readBack? (x : Float) (b : Binary) (k : Int) : Option Nat :=
  let (n, d) := b.scaled k
  let low := n / d
  let reads := fun (m : Nat) => Float.ofScientific m (0 ≤ k) k.natAbs == x.abs
  let half := 2 * (n % d)
  let near := if half < d || (half = d && low % 2 = 0) then low else low + 1
  let far := if near = low then low + 1 else low
  [near, far].find? reads

/-- The fewest digits that read back as `x`, and the number of digits before the point. -/
def shortest (x : Float) : List Char × Int :=
  let b := Binary.ofFloat x
  let m := magnitude b
  let scales := (List.range 18).map fun (n : Nat) => (n : Int) - m
  match scales.findSome? fun k => (readBack? x b k).map fun c => (c, k) with
  | some (c, k) =>
    let ds := digits 10 c
    (((ds.reverse.dropWhile (· = '0')).reverse), ds.length - k)
  | none => ([], 0)

/-- An exponent of at least two digits. -/
def exponentText (n : Int) : List Char :=
  let ds := digits 10 n.natAbs
  (if n < 0 then '-' else '+') :: (if ds.length < 2 then '0' :: ds else ds)

/-- A positive fraction by its digits and the number of them before the point. -/
def positional (ds : List Char) (point : Int) : List Char :=
  if -4 < point ∧ point ≤ 16 then
    if point ≤ 0 then '0' :: '.' :: List.replicate (-point).toNat '0' ++ ds
    else if ds.length ≤ point.toNat then
      ds ++ List.replicate (point.toNat - ds.length) '0' ++ ['.', '0']
    else ds.take point.toNat ++ '.' :: ds.drop point.toNat
  else
    ds.take 1 ++ (if ds.length = 1 then [] else '.' :: ds.drop 1) ++ 'e' :: exponentText (point - 1)

/-- How a fraction is written. -/
def fraction (x : Float) : String :=
  if x.isNaN then "nan"
  else
    let minus := if x < 0 || (x == 0 && x.toBits ≠ 0) then "-" else ""
    if x.isInf then minus ++ "inf"
    else if x == 0 then minus ++ "0.0"
    else
      let (ds, point) := shortest x
      minus ++ String.ofList (positional ds point)

end Nsis.Text
