import Nsis.Formula.Field
import Nsis.Formula.Reading

/-!
# Groups in formulas

Texts and what stands in brackets: values, groups, records, and gatherings. Everything is read
either plainly or with care. A text that is no formula is read again with care, and then a number of
common mistakes are told apart.

## Main definitions

* `Nsis.Formula.Grammar` — the readers of formulas that contain others.
* `Nsis.Formula.Grammar.complete` — a formula up to the end of its text.
* `Nsis.Formula.Grammar.text` — adjacent texts.
* `Nsis.Formula.Grammar.clauses` — the clauses of a gathering.
* `Nsis.Formula.Grammar.bracket`, `Nsis.Formula.Grammar.square`, `Nsis.Formula.Grammar.brace` — what
  follows an opening bracket.
-/

namespace Nsis.Formula

open Malformed (Flaw)
open Reading

/-- The readers of formulas that contain others, for the formulas inside. -/
structure Grammar where
  /-- A formula. -/
  expression (careful : Bool) : Reading Formula
  /-- A formula behind another one that it does not belong to. Its first part was read plainly
  before, unless it is read with care now. -/
  sequel (careful : Bool) : Reading Formula
  /-- A formula that is no choice. -/
  alternatives (careful : Bool) : Reading Formula
  /-- A condition that may be denied. -/
  inversion (careful : Bool) : Reading Formula
  /-- Operations that bind at least as tightly as a level. -/
  operations (careful : Bool) (level : Nat) : Reading Formula
  /-- A value that may have a sign in front. -/
  operand (careful : Bool) : Reading Formula
  /-- What a clause gives names to. -/
  pattern : Reading Pattern

namespace Grammar

variable (g : Grammar) (careful : Bool)

/-! ### Whole texts -/

/-- A formula, or several ones with commas, up to the end of the text. -/
def whole : Reading Formula := do
  let f ← g.expression careful
  let isSingle := !(← sees (sign ","))
  let fs ← many (fun fs => do
    expect (sign ",")
    return some ((← g.expression careful) :: fs)) [f]
  let _ ← accepts (sign ",")
  many (fun _ => do
    expect .newline
    return some ()) ()
  expect .finish
  return if isSingle then f else .tuple fs.reverse

/-- What is wrong with a text: its own flaw, or a bracket that is open in an earlier line at the
end. -/
def outcome (ls : List Lexeme) (cause : Malformed) : Halt :=
  match ls.getLast? with
  | some ⟨.broken ⟨.neverClosed c, line⟩, _, _, _⟩ =>
    .flawed (if line < cause.line then ⟨.neverClosed c, line⟩ else cause)
  | _ => .flawed cause

/-- A reading of all lexemes, and a second one with care where the first one is stuck. -/
def completeBy {α : Type} (read : (careful : Bool) → Reading α) (ls : List Lexeme) :
    Except Halt α :=
  let start := ls.headD behind
  let input : Input := { rest := ls, last := start, reach := start, size := ls.length }
  match read false input with
  | .ok (f, i) =>
    match i.doubt with
    | some cause => .error (.settled cause)
    | none => .ok f
  | .error (.stuck reach) =>
    match read true input with
    | .ok _ | .error (.stuck _) =>
      .error (outcome ls ⟨if reach.token = .indent then .indented else .misplaced, reach.line⟩)
    | .error (.flawed cause) => .error (outcome ls cause)
    | .error e => .error e
  | .error e => .error e

/-- The formula that all lexemes are. -/
def complete (ls : List Lexeme) : Except Halt Formula :=
  completeBy g.whole ls

/-! ### Texts -/

/-- The formula of a field in a line, which is read like one in brackets. -/
def fieldFormula (line : Nat) (cs : List Char) : Reading Formula :=
  match scan { line } ('(' :: cs ++ [')']) with
  | .error cause => throw (.settled cause)
  | .ok ls =>
    match g.complete ls with
    | .ok f => return f
    | .error (.flawed cause) => throw (.settled { cause with flaw := .inField cause.flaw })
    | .error e => throw e

/-- The formulas of the pieces of a text, whose formats have a number of levels. -/
def pieceFormulas (line : Nat) (raw : Bool) : (levels : Nat) → List Piece → Reading (List Formula)
  | 0, _ => return []
  | levels + 1, ps => ps.mapM fun
    | .literal cs => do
      return .text (String.ofList (← charsOf line { raw, content := cs }))
    | .field cs conversion format => do
      let f ← g.fieldFormula line cs
      return .field f conversion (← pieceFormulas line raw levels format)

/-- Adjacent texts, which are one. -/
def text : Reading Formula := do
  let line := (← here).line
  let qs ← quotations
  if qs.all fun (_, q) => q.binary then
    return .bytes (← qs.mapM fun (n, q) => bytesOf n q).flatten
  if qs.any fun (_, q) => q.binary then flaw line .mixedTexts
  if qs.any fun (_, q) => q.template then
    let parts ← qs.mapM fun (n, q) => do
      if !q.template then return [Formula.text (String.ofList (← charsOf n q))]
      let cut := Cut.ofChars q.raw q.content
      let fs ← g.pieceFormulas n q.raw 3 cut.pieces
      match cut.flaw with
      | some f => flaw n f
      | none => return fs
    return .template parts.flatten
  return .text (String.ofList (← qs.mapM fun (n, q) => charsOf n q).flatten)

/-! ### Items -/

/-- Refuse a single equals sign, and a name for what is no name. -/
def misnamed (line : Nat) (f : Formula) : Reading Unit := do
  let _ ← ahead do
    if ← accepts (sign ":=") then
      if (← attempt (g.expression true)).isSome then flaw line (.notNameable f.title)
    else if ← accepts (sign "=") then
      if (← attempt (g.operations true 0)).isSome then
        unless (← sees (sign "=")) || (← sees (sign ":=")) do
          match f with
          | .name _ => flaw line .assignment
          | f => if f.mayBeEquated then flaw line (.notAssignable f.title)

/-- A name with its value behind it. -/
def naming (s : String) : Reading Formula := do
  skip
  skip
  let f ← g.expression careful
  gives s
  return .named s f

/-- The name that a value gets next. -/
def given? : Reading (Option String) := do
  match ← peek, ← second with
  | .name s, .sign ":=" => return some s
  | _, _ => return none

/-- A value that may get a name. -/
def named : Reading Formula := do
  let line := (← here).line
  match ← given? with
  | some s => g.naming careful s
  | none =>
    let f ← g.expression careful
    if careful then g.misnamed line f
    if ← sees (sign ":=") then stuck
    return f

/-- What stands behind a star, which is a formula of its own. -/
def starredValue (line : Nat) : Reading Formula := do
  match ← attempt (g.expression careful) with
  | some f => return f
  | none => flaw line .bareStar

/-- An item of a group, or all items of another group behind a star. -/
def starredOrNamed (first : Bool) : Reading Formula := do
  let line := (← here).line
  if ← accepts (sign "*") then
    if careful && first then
      let _ ← ahead (g.starredValue true line)
    return .starred (← g.operations careful 0)
  g.named careful

/-- The further items of a group behind its first one, and whether there is a comma. -/
def items (closing : String) (first : Formula) : Reading (List Formula × Bool) := do
  let comma ← sees (sign ",")
  let fs ← many (fun fs => do
    expect (sign ",")
    if ← sees (sign closing) then return none
    return some ((← g.starredOrNamed careful false) :: fs)) [first]
  let _ ← accepts (sign ",")
  return (fs.reverse, comma)

/-- Formulas with commas between them, or a single one. A star may stand before each. -/
def sequence (first : Reading Formula) : Reading Formula := do
  let item := fun (r : Reading Formula) => do
    if ← accepts (sign "*") then return Formula.starred (← g.operations careful 0)
    r
  let f ← item first
  let isSingle := !(← sees (sign ","))
  let fs ← many (fun fs => do
    expect (sign ",")
    return some ((← item (g.expression careful)) :: fs)) [f]
  let _ ← accepts (sign ",")
  return if isSingle then f else .tuple fs.reverse

/-! ### Gatherings -/

/-- Patterns up to a token, and whether there is a comma. -/
def patterns (closing : Token) : Reading (List Pattern × Bool) := do
  let first ← g.pattern
  let comma ← sees (sign ",")
  let ps ← many (fun ps => do
    expect (sign ",")
    if ← sees closing then return none
    return some ((← g.pattern) :: ps)) [first]
  let _ ← accepts (sign ",")
  expect closing
  return (ps.reverse, comma)

/-- The pattern that patterns are, of which there is only one without a comma. -/
def joined : List Pattern × Bool → Pattern
  | ([p], false) => p
  | (ps, _) => .several ps

/-- What a clause gives a name to, up to the next comma. -/
def target : Reading Pattern := do
  if ← accepts (sign "*") then return .rest (← g.pattern)
  if ← accepts (sign "(") then
    if ← accepts (sign ")") then return .several []
    return joined (← g.patterns (sign ")"))
  if ← accepts (sign "[") then
    if ← accepts (sign "]") then return .several []
    return .several (← g.patterns (sign "]")).1
  match ← peek with
  | .name s =>
    skip
    return .name s
  | _ => stuck

mutual

/-- The part of a formula that cannot be a variable of a clause. -/
def unassignable? : Formula → Option Formula
  | .tuple items | .list items => unassignableOf? items
  | .related f links =>
    match links with
    | (.within, _) :: _ => unassignable? f
    | _ => none
  | .starred f => unassignable? f
  | .name _ | .part _ _ | .item _ _ => none
  | f => some f

/-- The first part of some formulas that cannot be a variable of a clause. -/
def unassignableOf? : List Formula → Option Formula
  | [] => none
  | f :: fs => unassignable? f <|> unassignableOf? fs

end

/-- Refuse formulas where the variables of a clause have to be. -/
def misplacedTarget (line : Nat) : Reading Unit := do
  if let some f ← ahead (g.sequence true (g.expression true)) then
    if let some e := unassignable? f then flaw line (.notVariable e.title)

/-- The variables of a clause and the source that they run through. -/
def source : Reading Formula := do
  let line := (← here).line
  let found ← attempt (g.patterns (.word "in"))
  let some ps := found
    | if careful then g.misplacedTarget line
      stuck
  if let ([.rest _], false) := ps then doubt line .loneRest
  let earlier := (← get).namings
  let f ← g.alternatives careful
  if earlier < (← get).namings then doubt line .namedInSource
  return .each (joined ps) f

/-- The clauses of a gathering. -/
def clauses : Reading (List Formula) := do
  let cs ← many (fun cs => do
    let line := (← here).line
    match ← peek with
    | .word "if" =>
      if cs.isEmpty then stuck
      skip
      return some (.provided (← g.alternatives careful) :: cs)
    | .word "async" =>
      skip
      expect (.word "for")
      doubt line .waitingGathering
      return some ((← g.source careful) :: cs)
    | .word "for" =>
      skip
      return some ((← g.source careful) :: cs)
    | _ => return none) []
  if cs.isEmpty then stuck
  return cs.reverse

/-- Whether the clauses of a gathering come next. -/
def seesClauses : Reading Bool := do
  return (← sees (.word "for")) || (← sees (.word "async"))

/-- The variables of clauses. -/
def variableNames (cs : List Formula) : List String :=
  cs.flatMap fun
    | .each p _ => p.names
    | _ => []

/-- A gathering of what was read since there were `given` names. -/
def gathering (grouping : Grouping) (given : Nat) (f : Formula) : Reading Formula := do
  let line := (← here).line
  let cs ← g.clauses careful
  let names := (← get).given
  match (names.take (names.length - given)).find? (variableNames cs).contains with
  | some s => doubt line (.renamedVariable s)
  | none => pure ()
  return .gathered grouping f cs

/-- Refuse clauses behind items that cannot be gathered. -/
def misgathered (line : Nat) (cause : Flaw) : Reading Unit := do
  if ← seesClauses then
    if (← ahead (g.clauses true)).isSome then flaw line cause

/-! ### Brackets -/

/-- Refuse stars in front of something in round brackets. -/
def misstarred (line : Nat) : Reading Unit := do
  let _ ← ahead do
    expect (sign "*")
    let _ ← g.starredValue true line
    if ← sees (sign ")") then flaw line .strayStar
    g.misgathered line .starredGathering
  let _ ← ahead do
    expect (sign "**")
    let _ ← g.expression true
    if ← sees (sign ")") then flaw line .strayDoubleStar

/-- What gives a value only inside functions. -/
def yielding (line : Nat) : Reading Formula := do
  if ← accepts (.word "from") then
    let _ ← g.expression careful
  else
    let _ ← attempt (g.sequence careful (g.expression careful))
  expect (sign ")")
  unless (← get).inFunction do doubt line (.outsideFunction "yield")
  return .absent

/-- What follows a round bracket: a value, values, or a series of them. -/
def bracket (line : Nat) : Reading Formula := do
  if ← accepts (sign ")") then return .tuple []
  if ← accepts (.word "yield") then return ← g.yielding careful line
  if careful then g.misstarred line
  let given := (← get).given.length
  let f ← g.starredOrNamed careful true
  if ← sees (sign ",") then
    let (fs, _) ← g.items careful ")" f
    expect (sign ")")
    return .tuple fs
  if f matches .starred _ then stuck
  let f ← if ← seesClauses then g.gathering careful .series given f else pure f
  expect (sign ")")
  return f

/-- What follows the items of a group, which is a closing bracket. -/
def closed (line : Nat) (closing : String) (fs : List Formula) (comma : Bool) : Reading Unit := do
  if careful then
    match fs, comma with
    | [.starred _], false => g.misgathered line .starredGathering
    | _, true => g.misgathered line .openGathering
    | _, _ => pure ()
  expect (sign closing)

/-- What follows a square bracket. -/
def square : Reading Formula := do
  if ← accepts (sign "]") then return .list []
  let line := (← here).line
  let given := (← get).given.length
  let f ← g.starredOrNamed careful true
  if (← seesClauses) && !(f matches .starred _) then
    let f ← g.gathering careful .list given f
    expect (sign "]")
    return f
  let (fs, comma) ← g.items careful "]" f
  g.closed careful line "]" fs comma
  return .list fs

/-- The value that follows a key and its colon. -/
def entryValue (line : Nat) : Reading Formula := do
  if (← sees (sign "\x7d")) || (← sees (sign ",")) then flaw line .missingValue
  let starred ← ahead do
    expect (sign "*")
    g.operations careful 0
  if starred.isSome then flaw line .starredValue
  g.expression careful

/-- A key with its value behind others, or a record behind two stars. -/
def entry : Reading Formula := do
  if ← accepts (sign "**") then return .doubleStarred (← g.operations careful 0)
  let line := (← here).line
  let key ← g.expression careful
  unless ← accepts (sign ":") do flaw line .missingColon
  return .pair key (← g.entryValue careful line)

/-- The further entries of a record behind its first one. -/
def entries (first : Formula) : Reading Formula := do
  let fs ← many (fun fs => do
    expect (sign ",")
    if ← sees (sign "\x7d") then return none
    return some ((← g.entry careful) :: fs)) [first]
  let _ ← accepts (sign ",")
  expect (sign "\x7d")
  return .record fs.reverse

/-- What follows a brace: a record or a set. -/
def brace : Reading Formula := do
  if ← accepts (sign "\x7d") then return .record []
  let line := (← here).line
  let given := (← get).given.length
  if ← accepts (sign "**") then
    let f ← g.operations careful 0
    if careful then g.misgathered line .spreadGathering
    return ← g.entries careful (.doubleStarred f)
  let mayBeKey := !(← sees (sign "*")) && (← given?).isNone
  let f ← g.starredOrNamed careful true
  if ← (if mayBeKey then accepts (sign ":") else pure false) then
    let f := Formula.pair f (← g.entryValue careful line)
    if !(← seesClauses) then return ← g.entries careful f
    let f ← g.gathering careful .record given f
    expect (sign "\x7d")
    return f
  if (← seesClauses) && !(f matches .starred _) then
    let f ← g.gathering careful .set given f
    expect (sign "\x7d")
    return f
  let (fs, comma) ← g.items careful "\x7d" f
  g.closed careful line "\x7d" fs comma
  return .set fs

/-- Refuse what is wrong with the items behind a brace that cannot stand there. -/
def misplacedBrace : Reading Unit := do
  let _ ← ahead do
    expect (sign "\x7b")
    let line := (← here).line
    let f ← g.starredOrNamed true true
    let (fs, comma) ← g.items true "\x7d" f
    g.closed true line "\x7d" fs comma

end Grammar

end Nsis.Formula
