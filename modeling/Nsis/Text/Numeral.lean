/-!
# Numerals

How numbers are written: in decimal, and in lower-case hexadecimal with or without padding.

## Main definitions

* `Nsis.Text.decimal` — decimal digits after an optional minus sign.
* `Nsis.Text.hex` — `0x` and hexadecimal digits, with a minus sign before the `0x`.
* `Nsis.Text.hexWord` — `0x` and eight columns of hexadecimal, the minus sign being one of them.
-/

namespace Nsis.Text

/-- The digits of `n` in the given base, most significant first, with lower-case letters. -/
def digits (base n : Nat) : List Char :=
  Nat.toDigits base n

/-- The decimal numeral of an integer. -/
def decimal (n : Int) : String :=
  String.ofList (if n < 0 then '-' :: digits 10 n.natAbs else digits 10 n.natAbs)

/-- The hexadecimal digits of `n`, filled with zeros on the left up to `width` columns. -/
def padded (width n : Nat) : List Char :=
  let ds := digits 16 n
  List.replicate (width - ds.length) '0' ++ ds

/-- The hexadecimal digits of a natural number. -/
def hexDigits (n : Nat) : String :=
  String.ofList (digits 16 n)

/-- The hexadecimal numeral of an integer: `0x1f`, `-0x1f`. -/
def hex (n : Int) : String :=
  (if n < 0 then "-0x" else "0x") ++ hexDigits n.natAbs

/-- The hexadecimal numeral of an integer in eight columns: `0x0000001f`. A minus sign takes one of
the columns and stands before the zeros: `0x-000001f`. -/
def hexWord (n : Int) : String :=
  "0x" ++ String.ofList (if n < 0 then '-' :: padded 7 n.natAbs else padded 8 n.natAbs)

end Nsis.Text
