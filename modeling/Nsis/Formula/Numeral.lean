import Nsis.Formula.Malformed
import Nsis.Text.Integer

/-!
# Numerals of formulas

Whole numbers are written in four bases, fractions with a point or an exponent. Single underscores
may stand between digits. A numeral must not run into a name, except into a word that can follow it.

## Main definitions

* `Nsis.Formula.Numeral` — the numbers that numerals stand for.
* `Nsis.Formula.Numeral.read` — the numeral at the start of a text.
-/

namespace Nsis.Formula

open Malformed (Flaw NumeralKind)

/-- What a numeral stands for. -/
inductive Numeral where
  | whole (n : Nat)
  /-- A decimal numeral with more digits than are read. -/
  | huge (digits : Nat)
  /-- The number `mantissa · 10 ^ exponent`. -/
  | fraction (mantissa : Nat) (exponent : Int)
  /-- The number `mantissa · 10 ^ exponent` times the root of minus one. -/
  | imaginary (mantissa : Nat) (exponent : Int)
  deriving DecidableEq, Repr

namespace Numeral

/-- How many characters the digits at the start of a text take, with single underscores between
them. -/
def decimalTail : List Char → Except Flaw Nat
  | [] => .ok 0
  | '_' :: [] => .error (.badNumeral .decimal)
  | '_' :: c :: cs =>
    if c.isDigit then (decimalTail cs).map (· + 2) else .error (.badNumeral .decimal)
  | c :: cs => if c.isDigit then (decimalTail cs).map (· + 1) else .ok 0

/-- The kind of numerals in a base. -/
def kindOf (base : Nat) : NumeralKind :=
  if base = 2 then .binary else if base = 8 then .octal else .hexadecimal

/-- Why a character is no digit of a base. -/
def wrongDigit (base : Nat) (c : Char) : Flaw :=
  if c.isDigit then .badDigit c (kindOf base) else .badNumeral (kindOf base)

/-- How many characters the digits behind the mark of a base take. One digit is `needed`. -/
def markedTail (base : Nat) (needed : Bool) : List Char → Except Flaw Nat
  | [] => if needed then .error (.badNumeral (kindOf base)) else .ok 0
  | '_' :: [] => .error (.badNumeral (kindOf base))
  | '_' :: c :: cs =>
    if (Text.digitValue? base c).isSome then (markedTail base false cs).map (· + 2)
    else .error (wrongDigit base c)
  | c :: cs =>
    if (Text.digitValue? base c).isSome then (markedTail base false cs).map (· + 1)
    else if needed || c.isDigit then .error (wrongDigit base c)
    else .ok 0

/-- The words that can follow a numeral without a blank, and must end there themselves. -/
def followers : List (List Char) :=
  ["and", "else", "for", "or", "not"].map String.toList

/-- The beginnings of words that can follow a numeral without a blank. -/
def beginnings : List (List Char) :=
  ["if", "in", "is"].map String.toList

/-- Whether a character can be a part of a name. -/
def continuesName (c : Char) : Bool :=
  c.isAlphanum || c = '_' || 0x80 ≤ c.toNat

/-- Whether a numeral can end before a text. -/
def ends (kind : NumeralKind) (cs : List Char) : Except Flaw Unit :=
  let isFollower := fun (w : List Char) =>
    w.isPrefixOf cs && !(cs.drop w.length).head?.any continuesName
  if followers.any isFollower || beginnings.any (·.isPrefixOf cs) then .ok ()
  else if cs.head?.any fun c => c.isAlphanum || c = '_' then .error (.badNumeral kind)
  else .ok ()

/-- The number that digits stand for, whatever stands between them. -/
def valueOf (base : Nat) (cs : List Char) : Nat :=
  Text.ofDigits base (cs.filterMap (Text.digitValue? base))

/-- How many of some characters are digits. -/
def digitCount (cs : List Char) : Nat :=
  cs.countP Char.isDigit

/-- A numeral behind the mark of a base, and how many characters it takes with the mark. -/
def marked (base : Nat) (cs : List Char) : Except Flaw (Numeral × Nat) := do
  let n ← markedTail base true cs
  ends (kindOf base) (cs.drop n)
  return (.whole (valueOf base (cs.take n)), n + 2)

/-- How many characters the exponent at the start of a text takes: its letter, possibly a sign, and
digits. There is none where no digit follows the letter. -/
def exponentTail (cs : List Char) : Except Flaw Nat :=
  match cs with
  | e :: c :: rest =>
    if e = 'e' || e = 'E' then
      if c = '+' || c = '-' then
        if rest.head?.any Char.isDigit then (decimalTail rest).map (· + 2)
        else .error (.badNumeral .decimal)
      else if c.isDigit then (decimalTail (c :: rest)).map (· + 1)
      else .ok 0
    else .ok 0
  | _ => .ok 0

/-- The value of an exponent. -/
def exponentValue : List Char → Int
  | _ :: '-' :: cs => -(valueOf 10 cs)
  | _ :: cs => valueOf 10 cs
  | [] => 0

/-- How many characters the digits behind a point take, with the point. -/
def pointTail (cs : List Char) : Except Flaw Nat :=
  match cs with
  | '.' :: c :: rest =>
    if c.isDigit then (decimalTail (c :: rest)).map (· + 1)
    else if c = '_' then .error (.badNumeral .decimal)
    else .ok 1
  | '.' :: [] => .ok 1
  | _ => .ok 0

/-- A whole decimal numeral. Zeros in front of other digits are refused. -/
def digitsOnly (cs : List Char) : Except Flaw Numeral :=
  if cs.head? = some '0' && cs.any fun c => c.isDigit && c ≠ '0' then .error .leadingZeros
  else if cs.head? ≠ some '0' && Text.maxDecimalDigits < digitCount cs then
    .ok (.huge (digitCount cs))
  else .ok (.whole (valueOf 10 cs))

/-- A decimal numeral, and how many characters it takes. -/
def decimal (cs : List Char) : Except Flaw (Numeral × Nat) := do
  let n ← decimalTail cs
  let p ← pointTail (cs.drop n)
  let e ← exponentTail (cs.drop (n + p))
  let rest := cs.drop (n + p + e)
  let mantissa := valueOf 10 (cs.take (n + p))
  let exponent := exponentValue ((cs.drop (n + p)).take e) - digitCount ((cs.drop n).take p)
  if rest.head?.any fun c => c = 'j' || c = 'J' then
    ends .imaginary (rest.drop 1)
    return (.imaginary mantissa exponent, n + p + e + 1)
  if p = 0 && e = 0 then
    let number ← digitsOnly (cs.take n)
    ends .decimal rest
    return (number, n)
  ends .decimal rest
  return (.fraction mantissa exponent, n + p + e)

/-- The numeral at the start of a text, and how many characters it takes. -/
def read : List Char → Except Flaw (Numeral × Nat)
  | '0' :: 'x' :: cs | '0' :: 'X' :: cs => marked 16 cs
  | '0' :: 'o' :: cs | '0' :: 'O' :: cs => marked 8 cs
  | '0' :: 'b' :: cs | '0' :: 'B' :: cs => marked 2 cs
  | cs => decimal cs

end Numeral

end Nsis.Formula
