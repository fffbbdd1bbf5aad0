import Nsis.Misuse.Family

/-!
# Packed data

What is wrong with layouts and with data that are packed or unpacked.

## Main definitions

* `Nsis.Misuse.PackFlaw` — the causes.
* `Nsis.Misuse.PackFlaw.family`, `Nsis.Misuse.PackFlaw.message` — their families and wording.
-/

namespace Nsis.Misuse

open Datum (Kind)

/-- What is wrong with layouts and with data that are packed or unpacked. -/
inductive PackFlaw where
  /-- A layout that is no text. -/
  | noLayout (k : Kind)
  /-- A count without a letter in a layout. -/
  | layoutCount
  | layoutLetter
  | layoutSize
  /-- A byte string of another size than its layout. -/
  | bufferSize (wanted : Nat)
  /-- An offset before the start of a byte string. -/
  | bufferOffset (offset : Int) (given : Nat)
  /-- A byte string that ends inside its layout. -/
  | bufferEnd (wanted : Nat) (offset : Int) (given : Nat)
  /-- A byte string that does not consist of whole parts. -/
  | bufferParts (wanted : Nat)
  | packCount (wanted given : Nat)
  | notPackable
  | notPackableBytes (letter : Char)
  | notPackableChar
  | notPackableFraction
  | packRange
  /-- A whole number that is too large for a field. -/
  | packHuge
  /-- A fraction that is too large for a field. -/
  | packHugeFraction (letter : Char)
  /-- No place for packed data at an offset before the end. -/
  | packOffset (wanted : Nat) (offset : Int)
  /-- A buffer that ends before packed data do. -/
  | packEnd (wanted : Nat) (offset : Int) (given : Nat)
  /-- No buffer or no offset to pack data into. -/
  | packTarget (what : String)
  /-- Data that cannot be packed into because they cannot change. -/
  | notWritable (k : Kind)
  /-- The number of data for packing into a buffer. -/
  | packIntoCount (wanted given : Nat)
  /-- A layout without bytes that is to be unpacked again and again. -/
  | emptyLayout
  /-- A number outside the limits of its letter. -/
  | packLimits (isWide : Bool) (letter : Char) (low high : Int)
  /-- A call without a layout. -/
  | noLayoutGiven
  deriving DecidableEq, Repr

/-- What a letter of a layout is called. -/
def packTitle (letter : Char) : String :=
  if letter = 'b' then "byte"
  else if letter = 'B' then "ubyte"
  else if letter = 'h' then "short"
  else if letter = 'H' then "ushort"
  else quote (String.ofList [letter])

namespace PackFlaw

/-- The family of a cause. -/
def family : PackFlaw → Family
  | packHugeFraction _ => .size
  | notWritable _ | noLayout _ | noLayoutGiven => .kind
  | _ => .layout

/-- The wording of a cause. -/
def message : PackFlaw → String
  | noLayout k => "Struct() argument 1 must be a str or bytes object, not " ++ k.name
  | layoutCount => "repeat count given without format specifier"
  | layoutLetter => "bad char in struct format"
  | layoutSize => "total struct size too long"
  | bufferSize wanted => "unpack requires a buffer of " ++ Text.decimal wanted ++ " bytes"
  | bufferOffset offset given =>
    "offset " ++ Text.decimal offset ++ " out of range for " ++ Text.decimal given ++ "-byte buffer"
  | bufferEnd wanted offset given =>
    if offset < 0 then
      "not enough data to unpack " ++ Text.decimal wanted ++ " bytes at offset "
        ++ Text.decimal offset
    else
      "unpack_from requires a buffer of at least " ++ Text.decimal (offset + wanted)
        ++ " bytes for unpacking " ++ Text.decimal wanted ++ " bytes at offset "
        ++ Text.decimal offset ++ " (actual buffer size is " ++ Text.decimal given ++ ")"
  | bufferParts wanted =>
    "iterative unpacking requires a buffer of a multiple of " ++ Text.decimal wanted ++ " bytes"
  | packCount wanted given =>
    "pack expected " ++ Text.decimal wanted ++ " items for packing (got " ++ Text.decimal given
      ++ ")"
  | notPackable => "required argument is not an integer"
  | notPackableBytes letter =>
    "argument for " ++ quote (String.ofList [letter]) ++ " must be a bytes object"
  | notPackableChar => "char format requires a bytes object of length 1"
  | notPackableFraction => "required argument is not a float"
  | packRange => "argument out of range"
  | packHuge => "int too large to convert"
  | packHugeFraction letter =>
    "float too large to pack with " ++ String.ofList [letter] ++ " format"
  | packOffset wanted offset =>
    "no space to pack " ++ Text.decimal wanted ++ " bytes at offset " ++ Text.decimal offset
  | packEnd wanted offset given =>
    "pack_into requires a buffer of at least " ++ Text.decimal (offset + wanted)
      ++ " bytes for packing " ++ Text.decimal wanted ++ " bytes at offset " ++ Text.decimal offset
      ++ " (actual buffer size is " ++ Text.decimal given ++ ")"
  | packTarget what => "pack_into expected " ++ what ++ " argument"
  | notWritable k => "argument must be read-write bytes-like object, not " ++ k.name
  | packIntoCount wanted given =>
    "pack_into expected " ++ Text.decimal wanted ++ " items for packing (got "
      ++ Text.decimal given ++ ")"
  | emptyLayout => "cannot iteratively unpack with a struct of length 0"
  | packLimits isWide letter low high =>
    (if isWide then quote (String.ofList [letter]) else packTitle letter)
      ++ " format requires " ++ Text.decimal low ++ " <= number <= " ++ Text.decimal high
  | noLayoutGiven => "missing format argument"

end PackFlaw

end Nsis.Misuse
