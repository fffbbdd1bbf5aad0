import Nsis.Text.Numeral
import Nsis.Text.Printable

/-!
# Quoted texts

How a text is shown inside a message: between quotes, with what cannot be shown written as an
escape. The quotes are apostrophes, unless the text holds an apostrophe and no quotation mark.

## Main definitions

* `Nsis.Text.quoted` — the quoted form of a text.
* `Nsis.Text.inAscii` — a text in which every character is one of ASCII.
-/

namespace Nsis.Text

/-- The quote that surrounds a text: an apostrophe, unless the text holds an apostrophe and no
quotation mark. -/
def quoteMark (cs : List Char) : Char :=
  if cs.contains '\'' && !cs.contains '"' then '"' else '\''

/-- A character by its code in two, four or eight hexadecimal columns. -/
def escaped (c : Char) : List Char :=
  if c.toNat < 0x100 then '\\' :: 'x' :: padded 2 c.toNat
  else if c.toNat < 0x10000 then '\\' :: 'u' :: padded 4 c.toNat
  else '\\' :: 'U' :: padded 8 c.toNat

/-- A character inside quotes. The quote and the backslash are written after a backslash; line ends
and tabs have letters; what is not printable is written by its code in two, four or eight
hexadecimal columns. -/
def quotedChar (mark c : Char) : List Char :=
  if c = mark || c = '\\' then ['\\', c]
  else if c = '\t' then ['\\', 't']
  else if c = '\n' then ['\\', 'n']
  else if c = '\r' then ['\\', 'r']
  else if isPrintable c then [c]
  else escaped c

/-- The quoted form of a text. -/
def quoted (s : String) : String :=
  let cs := s.toList
  let mark := quoteMark cs
  String.ofList (mark :: cs.flatMap (quotedChar mark) ++ [mark])

/-- A text in which every character outside ASCII is written by its code. -/
def inAscii (s : String) : String :=
  String.ofList (s.toList.flatMap fun c => if c.toNat < 0x80 then [c] else escaped c)

end Nsis.Text
