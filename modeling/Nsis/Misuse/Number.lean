import Nsis.Misuse.Family

/-!
# Numbers

What is wrong with numbers and with texts that stand for them.

## Main definitions

* `Nsis.Misuse.NumberFlaw` — the causes.
* `Nsis.Misuse.NumberFlaw.family`, `Nsis.Misuse.NumberFlaw.message` — their families and wording.
-/

namespace Nsis.Misuse

open Datum (Kind)

/-- What is wrong with numbers and with texts that stand for them. -/
inductive NumberFlaw where
  | notWhole (k : Kind)
  | notReal (k : Kind)
  | baseOfNumber
  | badBase
  | wholeWithout
  | badWhole (base : Nat) (shown : String)
  | hugeWhole (digits : Nat)
  /-- A number with too many digits to write it. -/
  | longWhole
  | badReal (shown : String)
  /-- A number that no character has. -/
  | charNumber
  | noRounding (k : Kind)
  | zeroModulus
  | noInverse
  /-- A fraction that is no number, as a whole number. -/
  | noNumber
  /-- A fraction that is no number, as a quotient. -/
  | noRatio
  | infiniteRatio
  /-- Digits that are no fraction. -/
  | badHexFraction
  | infinite
  /-- A whole number that is too large for a fraction. -/
  | hugeForFraction
  /-- A quotient that is too large for a fraction. -/
  | hugeQuotient
  | hugePower
  | zeroPairDivisor
  | zeroComplexDivisor
  | zeroComplexPower
  /-- A power with an imaginary part that is too large. -/
  | hugeComplexPower
  /-- The length of a number with an imaginary part that is too large. -/
  | hugeLength
  /-- A rounded fraction that is too large. -/
  | hugeRounded
  /-- A negative size of a buffer. -/
  | negativeBufferSize
  /-- A level or a window of deflated data that there is not. -/
  | badDeflation
  /-- A number that no word of four bytes has. -/
  | hugeWord
  /-- A number that no word of eight bytes has. -/
  | hugeLong
  /-- A power with a remainder of numbers with imaginary parts. -/
  | complexModulus
  /-- A text that is no number with an imaginary part because of its underscores. -/
  | badComplex (shown : String)
  | byteOrder
  | negativeLength
  | numberTooBig
  | negativeUnsigned
  | complexKind (second : Bool) (k : Kind)
  | complexText
  | complexSecond
  /-- A text as an imaginary part. -/
  | complexImaginary
  /-- A power with a remainder of what are no numbers. -/
  | noPowerModulo (k l m : Kind)
  /-- A power with a remainder of fractions. -/
  | powerOfFractions
  deriving DecidableEq, Repr

namespace NumberFlaw

/-- The family of a cause. -/
def family : NumberFlaw → Family
  | zeroPairDivisor | zeroComplexDivisor | zeroComplexPower => .zero
  | baseOfNumber | wholeWithout | complexSecond | complexImaginary | complexKind _ _
  | noPowerModulo _ _ _ | powerOfFractions | notWhole _ | notReal _ | noRounding _ => .kind
  | infiniteRatio | infinite | hugeForFraction | hugeQuotient | hugePower
  | hugeComplexPower | hugeLength | hugeRounded | hugeWord | hugeLong | numberTooBig
  | negativeUnsigned => .size
  | _ => .value

/-- The wording of a cause. -/
def message : NumberFlaw → String
  | notWhole k =>
    "int() argument must be a string, a bytes-like object or a real number, not " ++ quote k.name
  | notReal k => "float() argument must be a string or a real number, not " ++ quote k.name
  | baseOfNumber => "int() can't convert non-string with explicit base"
  | badBase => "int() base must be >= 2 and <= 36, or 0"
  | wholeWithout => "int() missing string argument"
  | badWhole base shown =>
    "invalid literal for int() with base " ++ Text.decimal base ++ ": " ++ shown
  | hugeWhole digits =>
    "Exceeds the limit (4300 digits) for integer string conversion: value has "
      ++ Text.decimal digits ++ " digits; use sys.set_int_max_str_digits() to increase the limit"
  | longWhole =>
    "Exceeds the limit (4300 digits) for integer string conversion; "
      ++ "use sys.set_int_max_str_digits() to increase the limit"
  | badReal shown => "could not convert string to float: " ++ shown
  | charNumber => "chr() arg not in range(0x110000)"
  | noRounding k => "type " ++ k.name ++ " doesn't define __round__ method"
  | zeroModulus => "pow() 3rd argument cannot be 0"
  | noInverse => "base is not invertible for the given modulus"
  | noNumber => "cannot convert float NaN to integer"
  | noRatio => "cannot convert NaN to integer ratio"
  | infiniteRatio => "cannot convert Infinity to integer ratio"
  | badHexFraction => "invalid hexadecimal floating-point string"
  | infinite => "cannot convert float infinity to integer"
  | hugeForFraction => "int too large to convert to float"
  | hugeQuotient => "integer division result too large for a float"
  | hugePower => "(34, 'Numerical result out of range')"
  | zeroPairDivisor => "float divmod()"
  | zeroComplexDivisor => "complex division by zero"
  | hugeComplexPower => "complex exponentiation"
  | hugeLength => "absolute value too large"
  | hugeRounded => "rounded value too large to represent"
  | negativeBufferSize => "bufsize must be non-negative"
  | badDeflation => "Invalid initialization option"
  | hugeWord => "Python int too large to convert to C int"
  | hugeLong => "Python int too large to convert to C long"
  | complexModulus => "complex modulo"
  | badComplex shown => "could not convert string to complex: " ++ shown
  | zeroComplexPower => "0.0 to a negative or complex power"
  | byteOrder => "byteorder must be either 'little' or 'big'"
  | negativeLength => "length argument must be non-negative"
  | numberTooBig => "int too big to convert"
  | negativeUnsigned => "can't convert negative int to unsigned"
  | complexKind second k =>
    if second then "complex() second argument must be a number, not " ++ quote k.name
    else "complex() first argument must be a string or a number, not " ++ quote k.name
  | complexText => "complex() arg is a malformed string"
  | complexSecond => "complex() can't take second arg if first is a string"
  | complexImaginary => "complex() second arg can't be a string"
  | noPowerModulo k l m =>
    "unsupported operand type(s) for ** or pow(): "
      ++ String.intercalate ", " ([k, l, m].map fun k => quote k.name)
  | powerOfFractions => "pow() 3rd argument not allowed unless all arguments are integers"

end NumberFlaw

end Nsis.Misuse
