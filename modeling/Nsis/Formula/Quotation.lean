import Nsis.Bytes
import Nsis.Formula.Malformed
import Nsis.Text.Integer

/-!
# Texts in formulas

A text stands between one or three quotation marks. Letters in front of it say whether its
backslashes are kept, whether it is a byte string, and whether it has fields for formulas.

## Main definitions

* `Nsis.Formula.Quotation` — a text as it is written.
* `Nsis.Formula.Quotation.read` — the text behind its letters.
* `Nsis.Formula.Quotation.chars`, `Nsis.Formula.Quotation.bytes` — what is written.
-/

namespace Nsis.Formula

open Malformed (Flaw BadEscape)

/-- A text as it is written between its quotation marks. -/
structure Quotation where
  /-- Whether backslashes stand for themselves. -/
  raw : Bool := false
  /-- Whether it is a byte string. -/
  binary : Bool := false
  /-- Whether it has fields for formulas. -/
  template : Bool := false
  content : List Char
  deriving DecidableEq, Repr

namespace Quotation

/-- The letters that may stand in front of a text, in any order and case. -/
def markers : List String := ["", "b", "r", "u", "f", "br", "rb", "fr", "rf"]

/-- How many letters stand in front of the text that characters begin with, if they begin with
one. -/
def letterCount? (cs : List Char) : Option Nat :=
  let letters := (cs.take 2).takeWhile Char.isAlpha
  let behind := cs.drop letters.length
  if markers.contains (String.ofList (letters.map Char.toLower))
    && behind.head?.any (fun c => c = '"' || c = '\'') then some letters.length
  else none

/-- How many characters there are up to the closing mark, which has `width` quotation marks. A
backslash takes the next character with it; a text in single marks ends before the line does. -/
def length? (mark : Char) (width : Nat) : List Char → Option Nat
  | [] => none
  | '\\' :: [] => none
  | '\\' :: _ :: cs => (length? mark width cs).map (· + 2)
  | c :: cs =>
    if (List.replicate width mark).isPrefixOf (c :: cs) then some 0
    else if width = 1 && c = '\n' then none
    else (length? mark width cs).map (· + 1)

/-- The text at the start of characters that begin with its `letters`, and how many characters it
takes. Without a closing mark there is only the number of marks. -/
def read (letters : Nat) (cs : List Char) : Except Nat (Quotation × Nat) :=
  let kinds := (cs.take letters).map Char.toLower
  let cs := cs.drop letters
  let mark := cs.headD '"'
  let width := if (List.replicate 3 mark).isPrefixOf cs then 3 else 1
  match length? mark width (cs.drop width) with
  | none => .error width
  | some n =>
    .ok ({
      raw := kinds.contains 'r'
      binary := kinds.contains 'b'
      template := kinds.contains 'f'
      content := (cs.drop width).take n }, letters + 2 * width + n)

/-- The characters that a backslash and a letter stand for. -/
def escapes : List (Char × Char) := [
  ('\\', '\\'), ('\'', '\''), ('"', '"'), ('a', '\x07'), ('b', '\x08'), ('f', '\x0c'), ('n', '\n'),
  ('r', '\r'), ('t', '\t'), ('v', '\x0b')]

/-- How many characters at the start of a text are digits of a base, up to a limit. -/
def digitRun (base limit : Nat) (cs : List Char) : Nat :=
  ((cs.take limit).takeWhile fun c => (Text.digitValue? base c).isSome).length

/-- The number of hexadecimal digits that a letter behind a backslash stands for. -/
def escapeWidth? (c : Char) : Option Nat :=
  if c = 'x' then some 2 else if c = 'u' then some 4 else if c = 'U' then some 8 else none

/-- How many positions a character takes: one outside ASCII is counted as its escape. -/
def charWidth (c : Char) : Nat :=
  if c.toNat < 0x80 then 1 else 10

/-- The number that the digits at the start of a text stand for. -/
def numberOf (base count : Nat) (cs : List Char) : Nat :=
  Text.ofDigits base ((cs.take count).filterMap (Text.digitValue? base))

/-- What characters with escapes stand for, from a position on, as numbers of characters. The
escapes of byte strings are fewer. -/
def unescaped (binary : Bool) (position : Nat) : (fuel : Nat) → List Char → Except Flaw (List Nat)
  | 0, _ | _, [] => .ok []
  | fuel + 1, '\\' :: c :: cs => do
    let next := fun (n : Nat) => unescaped binary (position + 2 + n) fuel (cs.drop n)
    if c = '\n' then next 0
    else if let some d := escapes.lookup c then
      return d.toNat :: (← next 0)
    else if (Text.digitValue? 8 c).isSome then
      let n := digitRun 8 2 cs
      return numberOf 8 (n + 1) (c :: cs) :: (← next n)
    else if binary && c = 'x' then
      if digitRun 16 2 cs < 2 then throw (.badByteEscape position)
      return numberOf 16 2 cs :: (← next 2)
    else if !binary && c = 'N' then
      if cs.head? ≠ some '\x7b' then throw (.badEscape position (position + 1) .unnamed)
      let n := (cs.takeWhile (· ≠ '\x7d')).length + 1
      return 0xfffd :: (← next n)
    else if let some width := (escapeWidth? c).filter fun _ => !binary then
      let n := digitRun 16 width cs
      if n < width then throw (.badEscape position (position + 1 + n) (.truncated c width))
      if 0x10ffff < numberOf 16 width cs then
        throw (.badEscape position (position + 1 + n) .illegal)
      return numberOf 16 width cs :: (← next width)
    else return 92 :: c.toNat :: (← unescaped binary (position + 1 + charWidth c) fuel cs)
  | fuel + 1, c :: cs =>
    (unescaped binary (position + charWidth c) fuel cs).map (c.toNat :: ·)

/-- What is written, as numbers of characters. -/
def codes (q : Quotation) : Except Flaw (List Nat) :=
  if q.raw then .ok (q.content.map Char.toNat)
  else unescaped q.binary 0 q.content.length q.content

/-- The characters of a text. -/
def chars (q : Quotation) : Except Flaw (List Char) :=
  q.codes.map fun ns => ns.map Char.ofNat

/-- The bytes of a byte string. -/
def bytes (q : Quotation) : Except Flaw Bytes :=
  if q.content.any fun c => 0x80 ≤ c.toNat then .error .foreignByte
  else q.codes.map fun ns => ns.map UInt8.ofNat

end Quotation

end Nsis.Formula
