import Nsis.Text.Fraction

/-!
# Fractions with a number of places

A finite fraction is rounded to a number of places behind the point, or to a number of digits with
an exponent. A half goes to the even neighbour, because the fraction is taken as exactly what it is.

## Main definitions

* `Nsis.Text.fixed` — a number of places behind the point.
* `Nsis.Text.scientific` — one digit before the point, a number of them behind it, and an exponent.
* `Nsis.Text.general` — a number of digits, with an exponent only where it is large or very small.
-/

namespace Nsis.Text

namespace Binary

/-- The fraction times `10 ^ k`, rounded to the nearest whole number; a half goes to the even
one. -/
def rounded (b : Binary) (k : Int) : Nat :=
  let (n, d) := b.scaled k
  let low := n / d
  let half := 2 * (n % d)
  if half < d || (half = d && low % 2 = 0) then low else low + 1

end Binary

/-- Digits with a point before the last `places` of them. A point without anything behind it may be
kept. -/
def pointed (places : Nat) (keepPoint : Bool) (ds : List Char) : List Char :=
  let ds := List.replicate (places + 1 - ds.length) '0' ++ ds
  let n := ds.length - places
  ds.take n ++ if places = 0 && !keepPoint then [] else '.' :: ds.drop n

/-- The place behind the point after which every fraction has zeros only. -/
def lastPlace : Nat := 1074

/-- The size of a finite fraction with a number of places behind the point. -/
def fixed (places : Nat) (keepPoint : Bool) (x : Float) : List Char :=
  let n := min places lastPlace
  pointed n keepPoint (digits 10 ((Binary.ofFloat x).rounded n)) ++ List.replicate (places - n) '0'

/-- The digits of a finite fraction, one more than `places`, and its exponent. -/
def significant (places : Nat) (x : Float) : List Char × Int :=
  let b := Binary.ofFloat x
  if b.mantissa = 0 then (List.replicate (places + 1) '0', 0)
  else
    let m := magnitude b
    let n := min places lastPlace
    let ds := digits 10 (b.rounded (n + 1 - m))
    (ds.take (n + 1) ++ List.replicate (places - n) '0', m - 1 + (ds.length - (n + 1) : Nat))

/-- The size of a finite fraction with one digit before the point and an exponent. -/
def scientific (places : Nat) (keepPoint : Bool) (x : Float) : List Char :=
  let (ds, exponent) := significant places x
  pointed places keepPoint ds ++ 'e' :: exponentText exponent

/-- Digits without the zeros at the end behind a point. -/
def trimmedZeros (cs : List Char) : List Char :=
  if cs.contains '.' then
    let cs := (cs.reverse.dropWhile (· = '0')).reverse
    if cs.getLast? = some '.' then cs.dropLast else cs
  else cs

/-- The size of a finite fraction with a number of digits: with a point if the exponent is at least
minus four and leaves more than `spare` of the digits, else with an exponent. Zeros at the end and a
point without anything behind it may be kept. -/
def general (size : Nat) (keepZeros : Bool) (spare : Nat) (x : Float) : List Char :=
  let size := max size 1
  let (ds, exponent) := significant (size - 1) x
  let trim := fun (cs : List Char) => if keepZeros then cs else trimmedZeros cs
  if -4 ≤ exponent ∧ exponent + spare < size then
    let places := ((size : Int) - 1 - exponent).toNat
    trim (pointed places keepZeros (List.replicate (-exponent).toNat '0' ++ ds))
  else trim (pointed (size - 1) keepZeros ds) ++ 'e' :: exponentText exponent

end Nsis.Text
