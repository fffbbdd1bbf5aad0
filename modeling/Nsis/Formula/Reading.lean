import Nsis.Formula.Basic
import Nsis.Formula.Token

/-!
# Readers of tokens

Tokens are read from left to right. Where an alternative does not fit, the next one is tried from
the same place, and a text that no alternative fits is misplaced where the reading got farthest.
Some flaws only count if the text is a formula otherwise; these are kept until it is read.

## Main definitions

* `Nsis.Formula.Reading` — readers of tokens.
* `Nsis.Formula.Reading.attempt` — an alternative, which takes nothing where it does not fit.
* `Nsis.Formula.Reading.ahead` — what comes later, without taking it.
* `Nsis.Formula.Reading.many` — something any number of times.
-/

namespace Nsis.Formula

open Malformed (Flaw)

/-- Where a reading is. -/
structure Input where
  rest : List Lexeme
  /-- The last lexeme that was taken. -/
  last : Lexeme
  /-- The farthest lexeme that was looked at. -/
  reach : Lexeme
  /-- How many lexemes there are in all. -/
  size : Nat
  /-- The names that were given to values, the last one first. Functions keep theirs. -/
  given : List String := []
  /-- How often a name was given to a value. -/
  namings : Nat := 0
  /-- Whether the formula is the body of a function. -/
  inFunction : Bool := false
  /-- The first flaw that only counts if the text is a formula otherwise. -/
  doubt : Option Malformed := none

/-- Why a reading ends without a formula. -/
inductive Halt where
  /-- No alternative fits; the farthest lexeme that was looked at. -/
  | stuck (reach : Lexeme)
  | flawed (cause : Malformed)
  /-- A flaw inside a text that is to be told as it is. -/
  | settled (cause : Malformed)
  /-- Too many formulas inside one another. -/
  | tooDeep

/-- Readers of tokens. -/
abbrev Reading := StateT Input (Except Halt)

namespace Reading

variable {α : Type}

/-- The later one of two lexemes. -/
def later (a b : Lexeme) : Lexeme :=
  if a.index < b.index then b else a

/-- A lexeme behind the end. -/
def behind : Lexeme := ⟨.finish, 0, 0, 0⟩

/-- The lexeme that comes next. -/
def here : Reading Lexeme := do
  return (← get).rest.headD behind

/-- The token that comes next. A text that cannot go on there is flawed. -/
def peek : Reading Token := do
  let l ← here
  if let .broken cause := l.token then throw (.flawed cause)
  modify fun i => { i with reach := later i.reach l }
  return l.token

/-- Whether a token comes next. -/
def sees (t : Token) : Reading Bool := do
  return (← peek) = t

/-- The token behind the next one. -/
def second : Reading Token := do
  return ((← get).rest.drop 1 |>.headD behind).token

/-- Take the next token. -/
def skip : Reading Unit :=
  modify fun i => { i with rest := i.rest.drop 1, last := i.rest.headD i.last }

/-- No alternative fits. -/
def stuck : Reading α := do
  throw (.stuck (← get).reach)

/-- A flaw in a line. -/
def flaw (line : Nat) (f : Flaw) : Reading α :=
  throw (.flawed ⟨f, line⟩)

/-- A flaw in a line that only counts if the text is a formula otherwise. -/
def doubt (line : Nat) (f : Flaw) : Reading Unit :=
  modify fun i => { i with doubt := i.doubt <|> some ⟨f, line⟩ }

/-- A value gets a name. -/
def gives (name : String) : Reading Unit :=
  modify fun i => { i with given := name :: i.given, namings := i.namings + 1 }

/-- Take a token if it comes next. -/
def accepts (t : Token) : Reading Bool := do
  if ← sees t then
    skip
    return true
  return false

/-- Take a token that has to come next. -/
def expect (t : Token) : Reading Unit := do
  unless ← accepts t do stuck

/-- What is read if it fits. Otherwise nothing is taken. -/
def attempt (r : Reading α) : Reading (Option α) := fun i =>
  match r i with
  | .ok (a, j) => .ok (some a, j)
  | .error (.stuck reach) => .ok (none, { i with reach := later i.reach reach })
  | .error e => .error e

/-- What is read if it fits. Nothing is taken in any case. -/
def ahead (r : Reading α) : Reading (Option α) := do
  let i ← get
  let a ← attempt r
  modify fun j => { i with reach := j.reach }
  return a

/-- Repeat a step until it gives nothing. -/
def repeated (step : α → Reading (Option α)) : (limit : Nat) → α → Reading α
  | 0, a => return a
  | limit + 1, a => do
    match ← step a with
    | some b => repeated step limit b
    | none => return a

/-- Repeat a step until it gives nothing or does not fit. -/
def many (step : α → Reading (Option α)) (a : α) : Reading α := do
  repeated (fun a => do return (← attempt (step a)).join) (← get).size a

/-- A sign as a token. -/
def sign (s : String) : Token := .sign s

/-- Whether a name is the beginning of a word that begins sentences of its own, which are not read
here. -/
def isSoft (name : String) : Bool :=
  ["_", "case", "match"].any (name.isPrefixOf ·)

/-- The names of functions that were called without brackets once. -/
def calledBare : List String := ["print", "exec"]

/-- The operation that a token is. -/
def operation? : Token → Option Operation
  | .sign s => Operation.ofSign? s
  | _ => none

/-- Whether the next lexemes are no two formulas side by side although they look like it. -/
def isNoNeighbour : Reading Bool := do
  match ← peek with
  | .name s => return isSoft s || match ← second with
    | .text _ => true
    | _ => false
  | _ => return false

/-- The relation that comes next. -/
def relation? : Reading (Option Relation) := do
  match ← peek with
  | .sign s =>
    let r := Relation.ofSign? s
    if r.isSome then skip
    return r
  | .word "in" =>
    skip
    return some .within
  | .word "not" =>
    if (← second) = .word "in" then
      skip
      skip
      return some .notWithin
    return none
  | .word "is" =>
    skip
    if ← accepts (.word "not") then return some .notSame
    return some .same
  | _ => return none

/-- What a number in a formula is. -/
def ofNumeral (line : Nat) : Numeral → Reading Formula
  | .whole n => return .number n
  | .huge digits => flaw line (.hugeNumeral digits)
  | .fraction mantissa exponent => return .fraction mantissa exponent
  | .imaginary mantissa exponent => return .imaginary mantissa exponent

/-- The texts that come next. -/
def quotations : Reading (List (Nat × Quotation)) := do
  let qs ← many (fun qs => do
    let l ← here
    match ← peek with
    | .text q =>
      skip
      return some ((l.line, q) :: qs)
    | _ => return none) []
  return qs.reverse

/-- The characters of a text in a line. -/
def charsOf (line : Nat) (q : Quotation) : Reading (List Char) :=
  match q.chars with
  | .ok cs => return cs
  | .error f => flaw line f

/-- The bytes of a byte string in a line. -/
def bytesOf (line : Nat) (q : Quotation) : Reading Bytes :=
  match q.bytes with
  | .ok b => return b
  | .error f => flaw line f

end Reading

end Nsis.Formula
