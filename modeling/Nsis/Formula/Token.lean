import Nsis.Formula.Numeral
import Nsis.Formula.Quotation
import Nsis.Text.Letter
import Nsis.Text.Printable

/-!
# Tokens of formulas

A formula is written with numerals, names, words, texts and signs. Blanks between them and comments
up to the end of a line do not matter, and neither do line ends inside brackets or behind a
backslash. Some flaws show in the characters alone, and the first one of these is what is wrong with
the text. Others stop the text, and only matter to who reads that far.

## Main definitions

* `Nsis.Formula.Token` — the tokens.
* `Nsis.Formula.Lexeme` — tokens with their places.
* `Nsis.Formula.scan` — the tokens of a text.
-/

namespace Nsis.Formula

open Malformed (Flaw)

/-- The tokens of formulas. -/
inductive Token where
  | numeral (n : Numeral)
  | text (q : Quotation)
  | name (s : String)
  /-- A word that is no name because it has a use in sentences, of which formulas are a part. -/
  | word (s : String)
  | sign (s : String)
  /-- The end of a line. -/
  | newline
  /-- Blanks at the start of a line. -/
  | indent
  | finish
  /-- The text cannot go on here. -/
  | broken (cause : Malformed)
  deriving DecidableEq, Repr

/-- A token with its place. -/
structure Lexeme where
  token : Token
  line : Nat
  /-- How many brackets are open behind the token. -/
  depth : Nat
  /-- How many tokens come before it. -/
  index : Nat
  deriving DecidableEq, Repr

/-- The words that are no names. -/
def reserved : List String := [
  "False", "None", "True", "and", "as", "assert", "async", "await", "break", "class", "continue",
  "def", "del", "elif", "else", "except", "finally", "for", "from", "global", "if", "import", "in",
  "is", "lambda", "nonlocal", "not", "or", "pass", "raise", "return", "try", "while", "with",
  "yield"]

/-- The signs of more than one character, the longest ones first. -/
def longSigns : List String := [
  "**=", "//=", ">>=", "<<=", "...", "!=", "%=", "&=", "**", "*=", "+=", "-=", "->", "//", "/=",
  ":=", "<<", "<=", "<>", "==", ">=", ">>", "@=", "^=", "|="]

/-- How many brackets may be open at once. -/
def maxDepth : Nat := 200

/-- Whether a character separates tokens on a line and means nothing. -/
def isBlank (c : Char) : Bool :=
  c = ' ' || c = '\t' || c = '\x0c'

/-- Whether a character belongs to a name or is taken for a part of one. -/
def isNameChar (c : Char) : Bool :=
  c.isAlphanum || c = '_' || 0x80 ≤ c.toNat

/-- The first character of a name that does not belong there. -/
def strangerIn? : List Char → Option Char
  | [] => none
  | c :: cs => if Text.isWordStart c then cs.find? (!Text.isWordPart ·) else some c

/-- A character in its usual width. -/
def narrow (c : Char) : Char :=
  if 0xff01 ≤ c.toNat && c.toNat ≤ 0xff5e then Char.ofNat (c.toNat - 0xfee0) else c

/-- The name or word that characters form. -/
def word (cs : List Char) : Except Flaw Token :=
  match strangerIn? cs with
  | some c => .error (if Text.isPrintable c then .wrongChar c else .hiddenChar c)
  | none =>
    let s := String.ofList (cs.map narrow)
    .ok (if reserved.contains s then .word s else .name s)

/-- The sign at the start of characters that begin with `c`. -/
def signAt (c : Char) (cs : List Char) : String :=
  (longSigns.find? fun s => s.toList.isPrefixOf (c :: cs)).getD (String.ofList [c])

/-- Where a text without its closing mark ends: a line further for each line end that belongs to
it. -/
def openLine (width line : Nat) : List Char → Nat
  | [] => line
  | '\\' :: '\n' :: cs => openLine width (line + 1) cs
  | c :: cs => if c = '\n' then if width = 1 then line else openLine width (line + 1) cs
    else openLine width line cs

/-- The flaw of a text without its closing mark. -/
def openFlaw (width line : Nat) (cs : List Char) : Flaw :=
  let last := openLine width line cs
  if width = 1 then .openText last else .openLongText last

/-- The token that begins with a character in a line, and how many of the following characters it
takes. -/
def next (line : Nat) (c : Char) (cs : List Char) : Except Flaw (Token × Nat) := do
  if c.isDigit || (c = '.' && cs.head?.any Char.isDigit) then
    let (n, size) ← Numeral.read (c :: cs)
    return (.numeral n, size - 1)
  match Quotation.letterCount? (c :: cs) with
  | some letters =>
    match Quotation.read letters (c :: cs) with
    | .ok (q, size) => return (.text q, size - 1)
    | .error width => throw (openFlaw width line cs)
  | none =>
    if isNameChar c then
      let tail := cs.takeWhile isNameChar
      return (← word (c :: tail), tail.length)
    else if !Text.isPrintable c then throw (.hiddenChar c)
    else
      let s := signAt c cs
      return (.sign s, s.length - 1)

/-- The closing bracket that belongs to an opening one. -/
def partner (c : Char) : Char :=
  if c = '(' then ')' else if c = '[' then ']' else '\x7d'

/-- The brackets that are open behind a token, with their lines and the innermost one first. -/
def opened (line : Nat) (brackets : List (Char × Nat)) (t : Token) :
    Except Flaw (List (Char × Nat)) :=
  match t with
  | .sign s =>
    match s.toList with
    | [c] =>
      if "([\x7b".toList.contains c then
        if maxDepth ≤ brackets.length then .error .tooDeep else .ok ((c, line) :: brackets)
      else if ")]\x7d".toList.contains c then
        match brackets with
        | [] => .error (.unmatched c)
        | (b, n) :: rest =>
          if partner b = c then .ok rest
          else .error (.mismatch c b (if n = line then none else some n))
      else .ok brackets
    | _ => .ok brackets
  | _ => .ok brackets

/-- Where in a text the scan is. -/
structure Place where
  line : Nat := 1
  index : Nat := 0
  brackets : List (Char × Nat) := []
  /-- Whether the line has no token yet. -/
  fresh : Bool := true

namespace Place

/-- A token at a place. -/
def lexeme (p : Place) (t : Token) : Lexeme :=
  ⟨t, p.line, p.brackets.length, p.index⟩

/-- The place behind a token that takes `lines` line ends. -/
def past (p : Place) (lines : Nat) : Place :=
  { p with index := p.index + 1, line := p.line + lines, fresh := false }

/-- The start of the next line. -/
def below (p : Place) (fresh : Bool) : Place :=
  { p with line := p.line + 1, fresh }

/-- The lexeme of a text that cannot go on: an open bracket is then never closed. -/
def broken (p : Place) (cause : Flaw) : Lexeme :=
  match p.brackets with
  | (c, n) :: _ => p.lexeme (.broken ⟨.neverClosed c, n⟩)
  | [] => p.lexeme (.broken ⟨cause, p.line⟩)

/-- The lexemes at the end of a text. -/
def finish (p : Place) : List Lexeme :=
  match p.brackets with
  | _ :: _ => [p.broken .brokenOff]
  | [] =>
    if p.fresh then [{ p.lexeme .finish with line := p.line - 1 }]
    else [p.lexeme .newline, (p.past 0).lexeme .finish]

end Place

/-- How many blanks a line begins with. -/
def indentation (cs : List Char) : Nat :=
  (((cs.takeWhile isBlank).reverse).takeWhile (· ≠ '\x0c')).length

/-- The tokens of a text, from a place on. -/
def scan (p : Place) : List Char → Except Malformed (List Lexeme)
  | [] => .ok p.finish
  | c :: cs =>
    if isBlank c then
      let rest := cs.dropWhile isBlank
      if p.fresh && p.brackets.isEmpty && rest.head?.all (fun d => d ≠ '#' && d ≠ '\n')
        && 0 < indentation (c :: cs) then
        (scan (p.past 0) (cs.drop (cs.takeWhile isBlank).length)).map (p.lexeme .indent :: ·)
      else scan p (cs.drop (cs.takeWhile isBlank).length)
    else if c = '#' then
      let size := (cs.takeWhile (· ≠ '\n')).length
      if p.fresh && (cs.drop size).isEmpty then .ok (p.below true).finish
      else scan p (cs.drop size)
    else if c = '\n' then
      if p.fresh || !p.brackets.isEmpty then scan (p.below true) cs
      else (scan ((p.past 0).below true) cs).map (p.lexeme .newline :: ·)
    else if c = '\\' then
      match cs with
      | '\n' :: [] => .ok [p.broken .brokenOff]
      | '\n' :: rest => scan (p.below false) rest
      | _ => .ok [p.lexeme (.broken ⟨.strayBackslash, p.line⟩)]
    else
      match next p.line c cs with
      | .error e => .error ⟨e, p.line⟩
      | .ok (t, n) =>
        match opened p.line p.brackets t with
        | .error e => .error ⟨e, p.line⟩
        | .ok brackets =>
          let q := { p with brackets }
          (scan (q.past ((cs.take n).count '\n')) (cs.drop n)).map (q.lexeme t :: ·)
termination_by cs => cs.length
decreasing_by
  all_goals simp only [List.length_cons, List.length_drop]; omega

/-- A text in which every line end is the same. -/
def withLines : List Char → List Char
  | '\r' :: '\n' :: cs => '\n' :: withLines cs
  | '\r' :: cs => '\n' :: withLines cs
  | c :: cs => c :: withLines cs
  | [] => []

/-- The tokens of a text. -/
def allLexemes (s : String) : Except Malformed (List Lexeme) :=
  let cs := s.toList
  if cs.contains '\x00' then .error ⟨.zeroChar, 0⟩ else scan {} (withLines cs)

/-- The tokens of a text. Blanks in front of it do not count. -/
def lexemes (s : String) : Except Malformed (List Lexeme) :=
  allLexemes (String.ofList (s.toList.dropWhile fun c => c = ' ' || c = '\t'))

end Nsis.Formula
