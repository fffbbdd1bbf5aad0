/-!
# Reading integers

Which texts are taken for a number. A text that begins with `0x` is hexadecimal, one that begins
with `0` is octal, and any other is decimal. Blanks around a numeral, a sign before a decimal one,
and single underscores between digits are allowed. Decimal digits of any script count.

## Main definitions

* `Nsis.Text.blankRanges`, `Nsis.Text.digitZeros` — blanks and decimal digits outside ASCII.
* `Nsis.Text.plainChar` — the ASCII character that stands for a character in a numeral.
* `Nsis.Text.digitsOf?` — digits with single underscores between them.
* `Nsis.Text.integer?` — the number that a text is taken for.
-/

namespace Nsis.Text

/-- The blanks outside ASCII, as ranges of code points. -/
def blankRanges : List (Nat × Nat) := [
  (0x85, 0x85), (0xa0, 0xa0), (0x1680, 0x1680), (0x2000, 0x200a), (0x2028, 0x2029),
  (0x202f, 0x202f), (0x205f, 0x205f), (0x3000, 0x3000)]

/-- The code points of the digits zero outside ASCII. The other nine digits of a script follow its
zero. -/
def digitZeros : List Nat := [
  0x660, 0x6f0, 0x7c0, 0x966, 0x9e6, 0xa66, 0xae6, 0xb66, 0xbe6, 0xc66, 0xce6, 0xd66, 0xde6, 0xe50,
  0xed0, 0xf20, 0x1040, 0x1090, 0x17e0, 0x1810, 0x1946, 0x19d0, 0x1a80, 0x1a90, 0x1b50, 0x1bb0,
  0x1c40, 0x1c50, 0xa620, 0xa8d0, 0xa900, 0xa9d0, 0xa9f0, 0xaa50, 0xabf0, 0xff10, 0x104a0, 0x10d30,
  0x11066, 0x110f0, 0x11136, 0x111d0, 0x112f0, 0x11450, 0x114d0, 0x11650, 0x116c0, 0x11730, 0x118e0,
  0x11950, 0x11c50, 0x11d50, 0x11da0, 0x16a60, 0x16ac0, 0x16b50, 0x1d7ce, 0x1d7d8, 0x1d7e2, 0x1d7ec,
  0x1d7f6, 0x1e140, 0x1e2f0, 0x1e950, 0x1fbf0]

/-- The ASCII character that stands for `c` in a numeral; one that no numeral contains if there is
none. -/
def plainChar (c : Char) : Char :=
  let n := c.toNat
  if n < 127 then c
  else if blankRanges.any fun (a, b) => a ≤ n && n ≤ b then ' '
  else
    match digitZeros.find? fun z => z ≤ n && n < z + 10 with
    | some z => Char.ofNat (48 + (n - z))
    | none => '?'

/-- Whether an ASCII character is blank. -/
def isBlank (c : Char) : Bool :=
  c = ' ' || (9 ≤ c.toNat && c.toNat ≤ 13)

/-- A text without the blanks around it. -/
def trimmed (cs : List Char) : List Char :=
  ((cs.dropWhile isBlank).reverse.dropWhile isBlank).reverse

/-- The value of a digit in a base. -/
def digitValue? (base : Nat) (c : Char) : Option Nat :=
  let value :=
    if c.isDigit then some (c.toNat - 48)
    else if 'a' ≤ c && c ≤ 'z' then some (c.toNat - 87)
    else if 'A' ≤ c && c ≤ 'Z' then some (c.toNat - 55)
    else none
  value.filter (· < base)

/-- The values of digits that may have single underscores between them. -/
def digitsOf? (base : Nat) : List Char → Option (List Nat)
  | [] => none
  | [c] => (digitValue? base c).map ([·])
  | c :: '_' :: rest =>
    match digitValue? base c, digitsOf? base rest with
    | some d, some ds => some (d :: ds)
    | _, _ => none
  | c :: rest =>
    match digitValue? base c, digitsOf? base rest with
    | some d, some ds => some (d :: ds)
    | _, _ => none

/-- The number with given digits, the most significant one first. -/
def ofDigits (base : Nat) (ds : List Nat) : Nat :=
  ds.foldl (fun n d => n * base + d) 0

/-- The number of decimal digits that are read at most. -/
def maxDecimalDigits : Nat := 4300

/-- Whether a number has more decimal digits than numerals may have. -/
def isTooLong (n : Nat) : Bool :=
  3 * maxDecimalDigits < n.log2 && Nat.pow 10 maxDecimalDigits ≤ n

/-- A decimal numeral without a sign. -/
def decimal? (cs : List Char) : Option Nat := do
  let ds ← digitsOf? 10 cs
  if ds.length ≤ maxDecimalDigits then some (ofDigits 10 ds) else none

/-- A decimal numeral, possibly with a sign. -/
def signedDecimal? : List Char → Option Int
  | '-' :: cs => (decimal? cs).map fun n => -n
  | '+' :: cs => (decimal? cs).map fun n => n
  | cs => (decimal? cs).map fun n => n

/-- The digits behind the mark of a base, which may begin with an underscore. -/
def marked? (base : Nat) (cs : List Char) : Option Nat :=
  let cs := match cs with
    | '_' :: cs => cs
    | cs => cs
  (digitsOf? base cs).map (ofDigits base)

/-- An octal numeral, possibly with the mark `0o`. -/
def octal? : List Char → Option Nat
  | '0' :: 'o' :: cs => marked? 8 cs
  | '0' :: 'O' :: cs => marked? 8 cs
  | cs => (digitsOf? 8 cs).map (ofDigits 8)

/-- The number that a text is taken for. -/
def integer? (text : String) : Option Int :=
  let cs := trimmed (text.toList.map plainChar)
  match text.toList with
  | [] => none
  | '0' :: 'x' :: _ => (marked? 16 (cs.drop 2)).map fun n => n
  | '0' :: _ => (octal? cs).map fun n => n
  | _ => signedDecimal? cs

end Nsis.Text
