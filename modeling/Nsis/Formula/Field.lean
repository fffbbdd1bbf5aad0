import Nsis.Formula.Quotation

/-!
# Fields of texts

A text with fields consists of literal pieces and of fields between braces. A field has a formula,
possibly an equals sign, which makes the formula itself a literal piece in front of the field,
possibly an exclamation mark with a letter, and possibly a colon with a format, which can have
fields itself. A brace that is meant literally is written twice.

## Main definitions

* `Nsis.Formula.Piece` — the pieces of a text with fields.
* `Nsis.Formula.Cut` — the pieces up to the first flaw.
* `Nsis.Formula.Cut.ofChars` — the pieces of a text.
-/

namespace Nsis.Formula

open Malformed (Flaw)

/-- A piece of a text with fields. -/
inductive Piece where
  | literal (cs : List Char)
  | field (formula : List Char) (conversion : Option Char) (format : List Piece)

/-- The pieces of a text up to the first flaw, and what is left where a format ends. -/
structure Cut where
  pieces : List Piece
  flaw : Option Flaw := none
  rest : List Char := []

namespace Cut

/-- More pieces in front. -/
def after (c : Cut) (pieces : List Piece) : Cut :=
  { c with pieces := pieces ++ c.pieces }

/-- The literal characters that a text begins with, up to a brace, and what follows. A backslash
takes the next character with it, and the braces around the name of a character. -/
def literalRun (raw : Bool) : (fuel : Nat) → List Char → List Char × List Char
  | 0, cs => ([], cs)
  | _, [] => ([], [])
  | fuel + 1, c :: cs =>
    let more := fun (taken rest : List Char) =>
      let (run, rest) := literalRun raw fuel rest
      (taken ++ run, rest)
    if c = '\x7b' || c = '\x7d' then ([], c :: cs)
    else if c = '\\' && !raw then
      match cs with
      | 'N' :: '\x7b' :: inside =>
        let n := (inside.takeWhile (· ≠ '\x7d')).length + 1
        more ('\\' :: 'N' :: '\x7b' :: inside.take n) (inside.drop n)
      | '\x7b' :: _ => more ['\\'] cs
      | d :: cs => more ['\\', d] cs
      | [] => (['\\'], [])
    else more [c] cs

/-- The mark of a text inside a formula, with its width. -/
abbrev Mark := Char × Nat

/-- The marks that a text inside a formula begins with. -/
def markOf (c : Char) (cs : List Char) : Mark :=
  if [c, c].isPrefixOf cs then (c, 3) else (c, 1)

/-- The characters of the formula of a field, with the brackets and the text that are open, and what
follows the formula. -/
def formulaOf : (brackets : List Char) → (quoted : Option Mark) → (fuel : Nat) → List Char →
    Except Flaw (List Char × List Char)
  | brackets, quoted, 0, _ | brackets, quoted, _, [] =>
    match quoted, brackets with
    | some _, _ => .error .openFieldText
    | none, b :: _ => .error (.fieldUnmatched b)
    | none, [] => .ok ([], [])
  | brackets, quoted, fuel + 1, c :: cs =>
    let more := fun (n : Nat) (brackets : List Char) (quoted : Option Mark) => do
      let (formula, rest) ← formulaOf brackets quoted fuel (cs.drop n)
      return (c :: cs.take n ++ formula, rest)
    if c = '\\' then .error .fieldBackslash
    else match quoted with
    | some (mark, width) =>
      if (List.replicate width mark).isPrefixOf (c :: cs) then more (width - 1) brackets none
      else more 0 brackets quoted
    | none =>
      if c = '\'' || c = '"' then
        let mark := markOf c cs
        more (mark.2 - 1) brackets (some mark)
      else if "([\x7b".toList.contains c then more 0 (c :: brackets) none
      else if c = '#' then .error .fieldComment
      else if brackets.isEmpty && "!=<>".toList.contains c && cs.head? = some '=' then
        more 1 brackets none
      else if brackets.isEmpty && "!:=\x7d".toList.contains c then .ok ([], c :: cs)
      else if ")]\x7d".toList.contains c then
        match brackets with
        | [] => .error (.fieldUnmatched c)
        | b :: brackets =>
          let partner := if b = '(' then ')' else if b = '[' then ']' else '\x7d'
          if partner = c then more 0 brackets none else .error (.fieldMismatch c b)
      else more 0 brackets none

/-- The equals sign behind a formula with the blanks behind it, and what follows. -/
def equalsOf (cs : List Char) : List Char × List Char :=
  match cs with
  | '=' :: cs => ('=' :: cs.takeWhile Text.isBlank, cs.dropWhile Text.isBlank)
  | cs => ([], cs)

/-- Whether a formula consists of blanks. -/
def isBlankFormula (cs : List Char) : Bool :=
  cs.all fun c => c = ' ' || c = '\t' || c = '\n' || c = '\x0c'

/-- The letter behind an exclamation mark, and what follows. -/
def conversionOf (cs : List Char) : Except Flaw (Option Char × List Char) :=
  match cs with
  | '!' :: [] => .error .openField
  | '!' :: c :: cs => if "sra".toList.contains c then .ok (some c, cs) else .error .badConversion
  | cs => .ok (none, cs)

/-- The pieces of a text, or of a format at a deeper level. -/
def fromLevel (raw : Bool) : (fuel : Nat) → (level : Nat) → List Char → Cut
  | 0, _, cs => { pieces := [], rest := cs }
  | fuel + 1, level, cs =>
    let (run, rest) := literalRun raw cs.length cs
    let before := if run.isEmpty then [] else [Piece.literal run]
    let stop := fun (found : List Piece) (f : Flaw) => { pieces := before ++ found, flaw := some f }
    match rest with
    | [] => { pieces := before }
    | c :: rest =>
      if level = 0 && rest.head? = some c then
        (fromLevel raw fuel level (rest.drop 1)).after (before ++ [.literal [c]])
      else if c = '\x7d' then
        if level = 0 then stop [] .strayBrace else { pieces := before, rest := c :: rest }
      else if 2 ≤ level then stop [] .nestedFields
      else
        match formulaOf [] none rest.length rest with
        | .error f => stop [] f
        | .ok (_, []) => stop [] .openField
        | .ok (formula, rest) =>
          if isBlankFormula formula then stop [] (.emptyField (rest.headD '\x7d'))
          else
            let (equals, rest) := equalsOf rest
            let label := if equals.isEmpty then [] else [Piece.literal (formula ++ equals)]
            match conversionOf rest with
            | .error f => stop [.field formula none []] f
            | .ok (conversion, rest) =>
              let (usual, format) : Option Char × Cut := match rest with
                | ':' :: rest => (none, fromLevel raw fuel (level + 1) rest)
                | rest => (if equals.isEmpty then none else some 'r', { pieces := [], rest })
              let field := label ++ [Piece.field formula (conversion <|> usual) format.pieces]
              match format.flaw, format.rest with
              | some f, _ => stop field f
              | none, '\x7d' :: rest => (fromLevel raw fuel level rest).after (before ++ field)
              | none, _ => stop field .openField

/-- The pieces of a text. -/
def ofChars (raw : Bool) (cs : List Char) : Cut :=
  fromLevel raw (cs.length + 1) 0 cs

end Cut

end Nsis.Formula
