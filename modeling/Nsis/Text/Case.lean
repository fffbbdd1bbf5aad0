import Nsis.Text.CaseRun
import Nsis.Text.Integer
import Nsis.Text.Letter

/-!
# Large and small letters

The large and small letters for a character or a text, and which characters are letters, digits and
blanks.

## Main definitions

* `Nsis.Text.lower`, `Nsis.Text.upper`, `Nsis.Text.title`, `Nsis.Text.folded` — the letters for a
  character that are small, large, at the beginning of a word, or compared.
* `Nsis.Text.isLarge`, `Nsis.Text.isSmall` — whether a letter is large or small.
* `Nsis.Text.lowered`, `Nsis.Text.swapped`, `Nsis.Text.capitalized`, `Nsis.Text.titled` — texts
  with other letters.
* `Nsis.Text.isLetter`, `Nsis.Text.isDecimal`, `Nsis.Text.isSpace` — classes of characters.
-/

namespace Nsis.Text

/-- The characters with some numbers. -/
def charsOf (ns : List Nat) : List Char :=
  ns.map Char.ofNat

/-- The small letters for a character. -/
def lower (c : Char) : List Char :=
  if c.toNat < 0x80 then [c.toLower]
  else if c.toNat = 0x130 then charsOf [0x69, 0x307]
  else charsOf [(CaseRun.partner? smallRuns c.toNat).getD c.toNat]

/-- The large letters for a character. -/
def upper (c : Char) : List Char :=
  if c.toNat < 0x80 then [c.toUpper]
  else charsOf ((largeGroups.lookup c.toNat).getD
    [(CaseRun.partner? largeRuns c.toNat).getD c.toNat])

/-- The letters for a character at the beginning of a word: the first of the large ones, with small
ones behind it, but for some letters. -/
def title (c : Char) : List Char :=
  match titleGroups.lookup c.toNat, CaseRun.partner? titleRuns c.toNat with
  | some ns, _ => charsOf ns
  | none, some n => charsOf [n]
  | none, none => (upper c).take 1 ++ ((upper c).drop 1).flatMap lower

/-- The letters that a character is compared as: the small ones of the large ones, but for some
letters. -/
def folded (c : Char) : List Char :=
  match CaseRun.partner? foldedRuns c.toNat with
  | some n => charsOf [n]
  | none => if c.toNat = 0x1e9e then ['s', 's'] else (upper c).flatMap lower

/-- Whether a letter only begins a word of large letters. -/
def isTitle (c : Char) : Bool :=
  isWithin titleRanges c.toNat

/-- Whether a letter is large. -/
def isLarge (c : Char) : Bool :=
  (lower c ≠ [c] && !isTitle c) || isWithin largeRanges c.toNat

/-- Whether a letter is small. -/
def isSmall (c : Char) : Bool :=
  (upper c ≠ [c] && !isTitle c) || isWithin smallRanges c.toNat

/-- Whether a letter is one of large and small ones. -/
def isCased (c : Char) : Bool :=
  isLarge c || isSmall c || isTitle c

/-- Whether a character between letters, such as an accent, does not end a word. -/
def isAccent (c : Char) : Bool :=
  "'.:^`¨\u00ad¯´·¸‘’․‧".toList.contains c
    || isWithin [(0x2b0, 0x36f), (0x483, 0x489), (0x1dc0, 0x1dff), (0x20d0, 0x20f0)] c.toNat

/-- The small letters for the first of the characters `c :: after`, behind others that are given
from the last one on. A sigma at the end of a word has a form of its own. -/
def lowerBetween (before : List Char) (c : Char) (after : List Char) : List Char :=
  let isInWord := fun (cs : List Char) => ((cs.dropWhile isAccent).head?).any isCased
  if c = 'Σ' && isInWord before && !isInWord after then ['ς'] else lower c

/-- A text in which each letter is replaced as `change` says of what is in front of it, from the
last character on, of itself and of what is behind it. -/
def changedFrom (change : List Char → Char → List Char → List Char) (before : List Char) :
    List Char → List Char
  | [] => []
  | c :: cs => change before c cs ++ changedFrom change (c :: before) cs

/-- A text in small letters. -/
def lowered (cs : List Char) : List Char :=
  changedFrom lowerBetween [] cs

/-- A text with small letters for large ones and the other way round. -/
def swapped (cs : List Char) : List Char :=
  changedFrom (fun before c after =>
    if isLarge c then lowerBetween before c after else if isSmall c then upper c else [c]) [] cs

/-- A text that begins with a large letter and goes on with small ones. -/
def capitalized (cs : List Char) : List Char :=
  changedFrom (fun before c after =>
    if before.isEmpty then title c else lowerBetween before c after) [] cs

/-- A text in which each word begins with a large letter. -/
def titled (cs : List Char) : List Char :=
  changedFrom (fun before c after =>
    if before.head?.any isCased then lowerBetween before c after else title c) [] cs

/-- Whether large letters only begin words, and small ones only go on, where `found` says whether
there was a letter before. -/
def isTitledFrom (inWord found : Bool) : List Char → Bool
  | [] => found
  | c :: cs =>
    if isLarge c || isTitle c then !inWord && isTitledFrom true true cs
    else if isSmall c then inWord && isTitledFrom true true cs
    else isTitledFrom false found cs

/-- Whether a character is a letter. -/
def isLetter (c : Char) : Bool :=
  (c ≠ '_' && isWordStart c && !isWithin nameRanges c.toNat) || isWithin innerRanges c.toNat

/-- Whether a character is a decimal digit. -/
def isDecimal (c : Char) : Bool :=
  (plainChar c).isDigit

/-- Whether a character is a digit, which may be raised. -/
def isDigitLike (c : Char) : Bool :=
  isDecimal c || isWithin digitRanges c.toNat

/-- Whether a character stands for a number. -/
def isNumberLike (c : Char) : Bool :=
  isDigitLike c || isWithin numberRanges c.toNat

/-- Whether a character is blank. -/
def isSpace (c : Char) : Bool :=
  let n := c.toNat
  isBlank c || (0x1c ≤ n && n ≤ 0x1f) || blankRanges.any fun (a, b) => a ≤ n && n ≤ b

/-- Whether a character ends a line. -/
def isLineEnd (c : Char) : Bool :=
  let n := c.toNat
  (0xa ≤ n && n ≤ 0xd) || (0x1c ≤ n && n ≤ 0x1e) || n = 0x85 || n = 0x2028 || n = 0x2029

end Nsis.Text
