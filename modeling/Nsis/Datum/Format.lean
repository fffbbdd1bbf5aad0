import Nsis.Datum.Part
import Nsis.Text.Decimal
import Nsis.Text.Integer

/-!
# Formats

A format says how a number or a text is written: how it is filled up to a width, in which base, with
how many places, and what stands between groups of its digits.

## Main definitions

* `Nsis.Datum.Format` — formats.
* `Nsis.Datum.Format.read` — the format that a text describes.
* `Nsis.Datum.formatted` — data in a format.
-/

namespace Nsis.Datum

/-! ### Long numbers -/

mutual

/-- Whether a number in data has too many digits to write it. -/
def hasLongNumber : Datum → Bool
  | number n => Text.isTooLong n.natAbs
  | list items | tuple items | set items | fixedSet items | entry _ items _ | series _ items =>
    anyLongNumber items
  | record keys values => anyLongNumber keys || anyLongNumber values
  | _ => false

/-- Whether a number in one of some data has too many digits to write it. -/
def anyLongNumber : List Datum → Bool
  | [] => false
  | d :: ds => hasLongNumber d || anyLongNumber ds

end

/-- Data that can be written. -/
def writable (d : Datum) : Except Fault Datum :=
  if d.hasLongNumber then .error (.misuse (.numeric .longWhole)) else .ok d

/-! ### Formats -/

/-- How data are written. -/
structure Format where
  fill : Char := ' '
  align : Char := '>'
  sign : Option Char := none
  /-- Whether numbers get the mark of their base, and fractions a point. -/
  marked : Bool := false
  /-- Whether a zero has no sign. -/
  unsigned : Bool := false
  width : Nat := 0
  /-- What stands between groups of digits. -/
  separator : Option Char := none
  places : Option Nat := none
  letter : Option Char := none

/-- Something wrong with a format. -/
def formatFault (flaw : Misuse.FormatFlaw) : Fault :=
  .misuse (.format flaw)

namespace Format

/-! ### Reading -/

/-- The characters that align. -/
def aligners : List Char := ['<', '>', '=', '^']

/-- The number that digits at the start of a text form, and what follows. -/
def leadingNumber (cs : List Char) : Option Nat × List Char :=
  let ds := cs.takeWhile Char.isDigit
  (if ds.isEmpty then none else some (Text.ofDigits 10 (ds.filterMap (Text.digitValue? 10))),
    cs.drop ds.length)

/-- The number that digits of any script form at the start of a text, and what follows. -/
def leadingSize (cs : List Char) : Except Fault (Option Nat × List Char) := do
  let ds := (cs.map Text.plainChar).takeWhile Char.isDigit
  let n := (leadingNumber ds).1
  if n.any fun n => !Signed.fits n then throw (formatFault .digits)
  return (n, cs.drop ds.length)

/-- The first character of a text if it is one of some, and what follows. -/
def oneOf (marks : List Char) (cs : List Char) : Option Char × List Char :=
  match cs with
  | c :: rest => if marks.contains c then (some c, rest) else (none, cs)
  | [] => (none, [])

/-- The fill character and the aligner at the start of a text, and what follows. -/
def leadingAlign (cs : List Char) : Option Char × Option Char × List Char :=
  match cs with
  | c :: a :: rest =>
    if aligners.contains a then (some c, some a, rest)
    else if aligners.contains c then (none, some c, a :: rest)
    else (none, none, cs)
  | [c] => if aligners.contains c then (none, some c, []) else (none, none, cs)
  | [] => (none, none, [])

/-- The letter that a format for data of a kind has if it names none. -/
def usualLetter? : Kind → Option Char
  | .text => some 's'
  | .number | .truth => some 'd'
  | _ => none

/-- Whether groups of digits can be separated in the form that a letter stands for. -/
def separates (separator letter : Char) : Bool :=
  "deEfFgG%".toList.contains letter || (separator = '_' && "boxX".toList.contains letter)

/-- The format that a text describes for data of a kind. Numbers are filled with zeros behind their
sign if the format has a zero before the width. -/
def read (k : Kind) (s : String) : Except Fault Format := do
  let (fill, align, cs) := leadingAlign s.toList
  let (sign, cs) := oneOf ['+', '-', ' '] cs
  let (unsigned, cs) := oneOf ['z'] cs
  let (mark, cs) := oneOf ['#'] cs
  let (zero, cs) := if fill.isNone then oneOf ['0'] cs else (none, cs)
  let (width, cs) ← leadingSize cs
  let (comma, cs) := oneOf [','] cs
  let (line, cs) := oneOf ['_'] cs
  if line.isSome && (comma.isSome || cs.head? = some ',') then
    throw (formatFault .bothSeparators)
  let separator := comma <|> line
  let (point, cs) := oneOf ['.'] cs
  let (places, cs) ← if point.isSome then leadingSize cs else pure (none, cs)
  if point.isSome && places.isNone then throw (formatFault .missingPlaces)
  if 1 < cs.length then throw (formatFault (.malformed s k))
  let letter := cs.head?
  if let (some c, some letter) := (separator, letter <|> usualLetter? k) then
    if !separates c letter then throw (formatFault (.separator c letter))
  let usual := if k = .text then '<' else if zero.isSome then '=' else '>'
  return {
    fill := fill.getD (zero.getD ' '), align := align.getD usual, sign, marked := mark.isSome,
    unsigned := unsigned.isSome, width := width.getD 0, separator, places, letter }

/-! ### Writing -/

/-- A text filled up to the width of a format. -/
def padded (f : Format) (sign body : List Char) : Except Fault String :=
  if memoryRoom ≤ f.width then .error .noMemory
  else
    let n := min f.width itemRoom - (sign.length + body.length)
    let gap := fun (n : Nat) => List.replicate n f.fill
    .ok (String.ofList (
      if f.align = '<' then sign ++ body ++ gap n
      else if f.align = '=' then sign ++ gap n ++ body
      else if f.align = '^' then gap (n / 2) ++ sign ++ body ++ gap (n - n / 2)
      else gap n ++ sign ++ body))

/-- Digits in groups from the end. -/
def grouped (separator : Char) (size : Nat) (cs : List Char) : List Char :=
  let marked := cs.reverse.mapIdx fun i c => if i % size = 0 && i ≠ 0 then [separator, c] else [c]
  marked.flatten.reverse

/-- How many digits in groups of a size fill a width: the separators before full groups count, and
a width that would begin with a separator is exceeded by one digit. -/
def digitsWithin (size width : Nat) : Nat :=
  width / (size + 1) * size + max 1 (width % (size + 1))

/-- A number by its sign, its digits before the point and what follows. Zeros between the sign and
the digits belong to the groups of digits. -/
def numeral (f : Format) (size : Nat) (sign digits rest : List Char) : Except Fault String :=
  match f.separator with
  | some c =>
    if digits.isEmpty || memoryRoom ≤ f.width then f.padded sign (digits ++ rest)
    else
      let room := min f.width itemRoom - (sign.length + rest.length)
      let zeros :=
        if f.fill = '0' && f.align = '=' then digitsWithin size room - digits.length else 0
      f.padded sign (grouped c size (List.replicate zeros '0' ++ digits) ++ rest)
  | none => f.padded sign (digits ++ rest)

/-- The base that a letter stands for, with its mark. -/
def baseOf (c : Char) : Nat × List Char :=
  if c = 'x' || c = 'X' then (16, ['0', c])
  else if c = 'o' then (8, ['0', 'o'])
  else if c = 'b' then (2, ['0', 'b'])
  else (10, [])

/-- The sign of a number. -/
def signOf (f : Format) (negative : Bool) : List Char :=
  if negative then ['-']
  else match f.sign with
    | some '+' => ['+']
    | some ' ' => [' ']
    | _ => []

/-! ### Fractions -/

/-- The size of a fraction in the fewest digits that tell it from others. -/
def shortestSize (keepsPoint keepsZero : Bool) (x : Float) : List Char :=
  let cs := (Text.fraction x.abs).toList
  let whole := cs.takeWhile Char.isDigit
  let rest := cs.drop whole.length
  if rest = ['.', '0'] && !keepsZero then whole ++ (if keepsPoint then ['.'] else [])
  else if keepsPoint && rest.head? = some 'e' then whole ++ '.' :: rest
  else cs

/-- The size of a finite fraction in the form that the letter of a format stands for. Without a
letter it has at least one place behind the point, unless it is part of a number with an imaginary
part. -/
def sizeOf (f : Format) (isPart : Bool) (x : Float) : List Char :=
  let places := min (f.places.getD 6) itemRoom
  match f.letter.map Char.toLower with
  | some 'f' | some '%' => Text.fixed places f.marked x
  | some 'e' => Text.scientific places f.marked x
  | some _ => Text.general places f.marked 0 x
  | none =>
    if f.places.isNone then shortestSize f.marked (!isPart) x
    else
      let cs := Text.general places f.marked (if isPart then 0 else 1) x
      if isPart || cs.contains '.' || cs.contains 'e' then cs else cs ++ ['.', '0']

/-- Whether a letter stands for a form of fractions. -/
def isFractional (letter : Char) : Bool :=
  "eEfFgGn%".toList.contains letter

/-- A fraction by its sign, its digits before the point and what follows. -/
def partsOf (f : Format) (isPart : Bool) (x : Float) : List Char × List Char × List Char :=
  let isShare := f.letter = some '%'
  let x := if isShare then x * 100 else x
  let cs :=
    if x.isNaN then ['n', 'a', 'n']
    else if x.isInf then ['i', 'n', 'f']
    else f.sizeOf isPart x
  let cs := if f.letter.any Char.isUpper then cs.map Char.toUpper else cs
  let isZero := Fraction.isFinite x
    && (cs.takeWhile fun c => c.isDigit || c = '.').all fun c => c = '0' || c = '.'
  let isNegative := x < 0 || (x == 0 && x.toBits ≠ 0)
  let whole := cs.takeWhile Char.isDigit
  (f.signOf (isNegative && !(f.unsigned && isZero)), whole,
    cs.drop whole.length ++ if isShare then ['%'] else [])

/-- Check that the letter of a format stands for a form of fractions, and its places. -/
def checkFractional (f : Format) (k : Kind) : Except Fault Unit := do
  if let some c := f.letter then
    if !isFractional c || (k = .complex && c = '%') then throw (formatFault (.letter c k))
  if f.places.any (0x7fffffff < ·) then throw (formatFault .places)

/-- A fraction in a format. -/
def ofFraction (f : Format) (x : Float) : Except Fault String := do
  f.checkFractional .fraction
  let (sign, whole, rest) := f.partsOf false x
  f.numeral 3 sign whole rest

/-- A number with an imaginary part in a format. Without a letter it stands between brackets, or has
no real part if that is zero. -/
def ofComplex (f : Format) (x y : Float) : Except Fault String := do
  f.checkFractional .complex
  if f.fill = '0' then throw (formatFault .complexZeros)
  if f.align = '=' then throw (formatFault .complexAlign)
  let isBare := f.letter.isNone && x == 0 && x.toBits = 0
  let written := fun (f : Format) (x : Float) => do
    let (sign, whole, rest) := f.partsOf true x
    { f with width := 0 }.numeral 3 sign whole rest
  let real ← if isBare then pure "" else written f x
  let imaginary ← written (if isBare then f else { f with sign := some '+' }) y
  let body := (real ++ imaginary).toList ++ ['j']
  f.padded [] (if f.letter.isNone && !isBare then '(' :: body ++ [')'] else body)

/-! ### Whole numbers and texts -/

/-- Check that a number has few enough digits to be written in a base. -/
def checkDigits (base : Nat) (n : Int) : Except Fault Unit :=
  if base = 10 && Text.isTooLong n.natAbs then .error (.misuse (.numeric .longWhole)) else .ok ()

/-- A character by its number in a format. -/
def ofCharNumber (f : Format) (n : Int) : Except Fault String := do
  if f.sign.isSome then throw (formatFault .charSign)
  if f.marked then throw (formatFault .charMark)
  if !Signed.fits n then throw (.misuse (.numeric .hugeLong))
  if n < 0 || 0x110000 ≤ n then throw (formatFault (.char false))
  f.padded [] [Char.ofNat n.toNat]

/-- A whole number in a format. -/
def ofNumber (f : Format) (k : Kind) (n : Int) : Except Fault String := do
  let letter := f.letter.getD 'd'
  if isFractional letter && letter ≠ 'n' then return ← f.ofFraction (← Fraction.ofInt n)
  if !"bcdnoxX".toList.contains letter then throw (formatFault (.letter letter k))
  if f.places.isSome then throw (formatFault .placesOfNumber)
  if f.unsigned then throw (formatFault (.unsignedZero false))
  if letter = 'c' then return ← f.ofCharNumber n
  let (base, mark) := baseOf letter
  checkDigits base n
  let digits := Text.digits base n.natAbs
  let digits := if letter = 'X' then digits.map Char.toUpper else digits
  let sign := f.signOf (n < 0) ++ if f.marked then mark else []
  f.numeral (if base = 10 then 3 else 4) sign digits []

/-- A text in a format. -/
def ofText (f : Format) (s : String) : Except Fault String := do
  if let some c := f.letter then
    if c ≠ 's' then throw (formatFault (.letter c .text))
  if let some c := f.sign then throw (formatFault (.textSign c))
  if f.unsigned then throw (formatFault (.unsignedZero true))
  if f.marked then throw (formatFault .textMark)
  if f.align = '=' then throw (formatFault .textAlign)
  f.padded [] (match f.places with
    | some n => s.toList.take n
    | none => s.toList)

end Format

/-- Data in a format. -/
def formatted (d : Datum) (format : String) : Except Fault String :=
  if format.isEmpty then do return (← d.writable).plain
  else
    match d, d.number? with
    | _, some n => do (← Format.read d.kind format).ofNumber d.kind n
    | text s, _ => do (← Format.read d.kind format).ofText s
    | fraction x, _ => do (← Format.read d.kind format).ofFraction x
    | complex x y, _ => do (← Format.read d.kind format).ofComplex x y
    | d, _ => .error (.noNumeral d.kind)

end Nsis.Datum
