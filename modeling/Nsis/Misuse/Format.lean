import Nsis.Misuse.Family

/-!
# Formats and fields

What is wrong with formats, and with the fields of a text that are to be filled.

## Main definitions

* `Nsis.Misuse.FormatFlaw` — the causes.
* `Nsis.Misuse.FormatFlaw.family`, `Nsis.Misuse.FormatFlaw.message` — their families and wording.
-/

namespace Nsis.Misuse

open Datum (Kind)

/-- What is wrong with formats, and with the fields of a text that are to be filled. -/
inductive FormatFlaw where
  | missingPlaces
  | placesOfNumber
  | malformed (format : String) (k : Kind)
  /-- A letter that data of a kind have no format for. -/
  | letter (c : Char) (k : Kind)
  /-- A number that no character has. -/
  | char (binary : Bool)
  /-- A sign for a text. -/
  | textSign (c : Char)
  | textMark
  | textAlign
  /-- A separator of groups of digits with a letter that has none. -/
  | separator (c letter : Char)
  | bothSeparators
  /-- That zero has no sign, for a text or a whole number. -/
  | unsignedZero (isText : Bool)
  | charSign
  | charMark
  | complexZeros
  | complexAlign
  /-- A number in a format that is too large. -/
  | digits
  | places
  /-- A width or a number of places in a field that is too large. -/
  | fieldWidth
  | fieldPlaces (binary : Bool)
  /-- More digits than a number can have. -/
  | hugePlaces
  /-- Data without a field. -/
  | leftover (binary : Bool)
  /-- A field without data. -/
  | noData
  | notReal (binary : Bool) (k : Kind)
  /-- Something else than a whole number for a star. -/
  | notCount
  | hugeCount
  | notNumber (c : Char) (k : Kind)
  | notWhole (c : Char) (k : Kind)
  | notChar (binary : Bool)
  | notBytes (k : Kind)
  /-- A letter at an index that there is no field for. -/
  | unknownField (binary : Bool) (c : Char) (index : Nat)
  /-- A byte that is no ASCII character where a letter belongs. -/
  | byteField
  /-- A field that does not end. -/
  | openField
  | openKey
  /-- A field with a key where there are no keys. -/
  | noMapping
  deriving DecidableEq, Repr

namespace FormatFlaw

/-- The family of a cause. -/
def family : FormatFlaw → Family
  | leftover _ | noData | notReal _ _ | notCount | notNumber _ _ | notWhole _ _ | notChar _
  | notBytes _ | noMapping => .kind
  | char _ | hugeCount | hugePlaces | byteField => .size
  | _ => .value

/-- A letter of a format between apostrophes; by its number if it is no visible ASCII character. -/
def quoteLetter (c : Char) : String :=
  if 32 < c.toNat && c.toNat < 128 then quote (String.ofList [c])
  else quote ("\\x" ++ Text.hexDigits c.toNat)

/-- The wording of a cause. -/
def message : FormatFlaw → String
  | missingPlaces => "Format specifier missing precision"
  | placesOfNumber => "Precision not allowed in integer format specifier"
  | malformed format k =>
    "Invalid format specifier " ++ quote format ++ " for object of type " ++ quote k.name
  | letter c k => "Unknown format code " ++ quoteLetter c ++ " for object of type " ++ quote k.name
  | char binary => "%c arg not in range(" ++ (if binary then "256" else "0x110000") ++ ")"
  | textSign c =>
    (if c = ' ' then "Space" else "Sign") ++ " not allowed in string format specifier"
  | textMark => "Alternate form (#) not allowed in string format specifier"
  | textAlign => "'=' alignment not allowed in string format specifier"
  | separator c l => "Cannot specify " ++ quoteLetter c ++ " with " ++ quoteLetter l ++ "."
  | bothSeparators => "Cannot specify both ',' and '_'."
  | unsignedZero isText =>
    "Negative zero coercion (z) not allowed in " ++ (if isText then "string" else "integer")
      ++ " format specifier"
  | charSign => "Sign not allowed with integer format specifier 'c'"
  | charMark => "Alternate form (#) not allowed with integer format specifier 'c'"
  | complexZeros => "Zero padding is not allowed in complex format specifier"
  | complexAlign => "'=' alignment flag is not allowed in complex format specifier"
  | digits => "Too many decimal digits in format string"
  | places => "precision too big"
  | fieldWidth => "width too big"
  | fieldPlaces binary => if binary then "prec too big" else "precision too big"
  | hugePlaces => "precision too large"
  | leftover binary =>
    "not all arguments converted during " ++ (if binary then "bytes" else "string") ++ " formatting"
  | noData => "not enough arguments for format string"
  | notReal binary k =>
    (if binary then "float argument required, not " else "must be real number, not ") ++ k.name
  | notCount => "* wants int"
  | hugeCount => "Python int too large to convert to C ssize_t"
  | notNumber c k =>
    "%" ++ String.ofList [c] ++ " format: a real number is required, not " ++ k.name
  | notWhole c k =>
    "%" ++ String.ofList [c] ++ " format: an integer is required, not " ++ k.name
  | notChar binary =>
    if binary then "%c requires an integer in range(256) or a single byte"
    else "%c requires int or char"
  | notBytes k =>
    "%b requires a bytes-like object, or an object that implements __bytes__, not " ++ quote k.name
  | unknownField binary c index =>
    let isShown := binary || (31 ≤ c.toNat && c.toNat < 128)
    "unsupported format character " ++ quote (String.ofList [if isShown then c else '?'])
      ++ " (" ++ Text.hex c.toNat ++ ") at index " ++ Text.decimal index
  | byteField => "character argument not in range(0x110000)"
  | openField => "incomplete format"
  | openKey => "incomplete format key"
  | noMapping => "format requires a mapping"

end FormatFlaw

end Nsis.Misuse
