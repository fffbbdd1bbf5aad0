import Nsis.Formula.Operand

/-!
# The formula of a text

Conditions, choices and functions, which are made of operands, and the formula that a whole text is.

## Main definitions

* `Nsis.Formula.Grammar.choice` — a formula.
* `Nsis.Formula.Grammar.upTo` — the readers of formulas, by the depth of nesting.
* `Nsis.Formula.parse` — the formula that a text is.
-/

namespace Nsis.Formula

open Malformed (Flaw)
open Reading

namespace Grammar

variable (g : Grammar) (careful : Bool)

/-! ### Conditions -/

/-- A condition that may be denied, and is a relation otherwise. -/
def denied : Reading Formula := do
  if ← accepts (.word "not") then return .denied (← g.inversion careful)
  let f ← g.combined careful 0
  let links ← many (fun links => do
    match ← relation? with
    | some r => return some ((r, ← g.combined careful 0) :: links)
    | none => return none) []
  return if links.isEmpty then f else .related f links.reverse

/-- Conditions all of which are to hold. -/
def conjunction : Reading Formula := do
  let f ← g.denied careful
  let fs ← many (fun fs => do
    expect (.word "and")
    return some ((← g.denied careful) :: fs)) [f]
  return if fs.length = 1 then f else .every fs.reverse

/-- Alternatives one of which is to hold. -/
def disjunction : Reading Formula := do
  let f ← g.conjunction careful
  let fs ← many (fun fs => do
    expect (.word "or")
    return some ((← g.conjunction careful) :: fs)) [f]
  return if fs.length = 1 then f else .any fs.reverse

/-! ### Functions -/

/-- The parameters of a function that were read so far. -/
structure Signature where
  parameters : Parameters := {}
  defaults : List (String × Formula) := []
  /-- Whether there was a slash. -/
  slashed : Bool := false
  /-- Whether there was a star. -/
  starred : Bool := false
  /-- Whether a parameter with its name has to come next. -/
  awaiting : Bool := false

/-- A flaw if the reading is careful. Otherwise this alternative does not fit. -/
def refuse {α : Type} (line : Nat) (cause : Flaw) : Reading α :=
  if careful then flaw line cause else stuck

/-- A parameter with its default, behind others. -/
def parameter (line : Nat) (s : Signature) (label : String) : Reading Signature := do
  skip
  let p := s.parameters
  let parameters := if s.starred then { p with labelled := p.labelled ++ [label] }
    else { p with plain := p.plain ++ [label] }
  let s' := { s with parameters, awaiting := false }
  if ← accepts (sign "=") then
    if careful && ((← sees (sign ",")) || (← sees (sign ")"))) then flaw line .missingDefault
    return { s' with defaults := s.defaults ++ [(label, ← g.expression careful)] }
  if !s.starred && !s.defaults.isEmpty then refuse careful line .lateParameter
  return s'

/-- A slash among parameters. -/
def slash (line : Nat) (s : Signature) : Reading Signature := do
  skip
  if s.slashed then refuse careful line .secondSlash
  if s.starred then refuse careful line .lateSlash
  if s.parameters.plain.isEmpty then
    if ← sees (sign ",") then refuse careful line .earlySlash
    stuck
  let parameters := { s.parameters with unnamed := s.parameters.plain.length }
  return { s with parameters, slashed := true }

/-- A star among parameters, and the one that takes what is left over. -/
def star (line : Nat) (s : Signature) : Reading Signature := do
  skip
  let label ← attempt do
    match ← peek with
    | .name label =>
      skip
      return label
    | _ => stuck
  if s.starred then
    if label.isSome || (← sees (sign ",")) then refuse careful line .secondStar
    stuck
  if ← sees (sign "=") then refuse careful line (.restDefault false)
  if label.isNone then
    let isBare ← ahead do
      let _ ← accepts (sign ",")
      unless (← sees (sign ":")) || (← sees (sign "**")) do stuck
    if isBare.isSome then refuse careful line .bareMark
  let parameters := { s.parameters with rest := label }
  return { s with parameters, starred := true, awaiting := label.isNone }

/-- The parameter that takes the arguments with a name that are left over, which is the last one. -/
def doubleStar (line : Nat) (s : Signature) : Reading Signature := do
  skip
  match ← peek with
  | .name label =>
    skip
    if ← sees (sign "=") then refuse careful line (.restDefault true)
    if ← sees (sign ",") then
      let more ← ahead do
        skip
        match ← peek with
        | .name _ => return ()
        | t => unless t = sign "*" || t = sign "**" || t = sign "/" do stuck
      if more.isSome then refuse careful line .behindRecord
    return { s with parameters := { s.parameters with record := some label } }
  | _ => stuck

/-- Refuse parameters in brackets. -/
def bracketed (line : Nat) (s : Signature) : Reading Unit := do
  if careful && s.defaults.isEmpty && !s.starred then
    let names ← ahead do
      expect (sign "(")
      let names ← many (fun names => do
        unless names.isEmpty do expect (sign ",")
        match ← peek with
        | .name s =>
          skip
          return some (s :: names)
        | _ => return none) []
      let _ ← accepts (sign ",")
      expect (sign ")")
      return names
    if names.any (!·.isEmpty) then flaw line .bracketedParameters

/-- The parameters of a function, up to a colon. -/
def signature (line : Nat) : Reading Signature := do
  let step := fun (s : Signature) => do
    match ← peek with
    | .name label => some <$> g.parameter careful line s label
    | t =>
      if t = sign "/" then some <$> slash careful line s
      else if t = sign "*" then some <$> star careful line s
      else if t = sign "**" then some <$> doubleStar careful line s
      else
        bracketed careful line s
        return none
  let some first ← step {}
    | expect (sign ":")
      return {}
  let s ← many (fun s => do
    if s.parameters.record.isSome then return none
    expect (sign ",")
    step s) first
  if s.awaiting then stuck
  let _ ← accepts (sign ",")
  expect (sign ":")
  return s

/-- A function. -/
def function : Reading Formula := do
  let line := (← here).line
  expect (.word "lambda")
  let s ← g.signature careful line
  let outer ← get
  modify fun i => { i with inFunction := true }
  let body ← g.expression careful
  modify fun i => { i with given := outer.given, inFunction := outer.inFunction }
  if let some label := repeated? s.parameters.names then doubt line (.repeatedParameter label)
  return .function s.parameters s.defaults body

/-! ### Choices -/

/-- Refuse a second formula behind a first one in brackets. -/
def neighbour (line : Nat) (f : Formula) : Reading Unit := do
  let isBare := match f with
    | .name s => calledBare.contains s
    | _ => false
  let depth ← ahead do
    let _ ← g.expression false
    return (← get).last.depth
  if depth.any (· ≠ 0) && !isBare then flaw line .missingComma

/-- Refuse a call without brackets of a function with a name, and what is wrong behind the name.
What follows a brace there was looked at before. -/
def bareCall (line : Nat) (label : String) (inner : Bool) : Reading Unit := do
  let isBrace ← sees (sign "\x7b")
  let mayFollow ← if isBrace then (·.isSome) <$> ahead (g.operand false) else pure true
  unless (← sees (sign "(")) || !mayFollow do
    let found ← ahead (g.sequence true (g.sequel inner))
    if found.isSome && calledBare.contains label then flaw line (.missingBrackets label)

/-- A condition and what is chosen without it, which are read with care or not. -/
def alternative (inner : Bool) (line : Nat) : Reading (Formula × Formula) := do
  expect (.word "if")
  let condition ← g.disjunction inner
  if ← sees (sign ":") then stuck
  unless ← accepts (.word "else") do refuse careful line .missingElse
  let no ← g.expression inner
  return (condition, no)

/-- A formula, whose first part is read with care or not. -/
def choice (inner : Bool) : Reading Formula := do
  let start ← get
  let line := (← here).line
  if ← sees (.word "lambda") then return ← g.function careful
  let noNeighbour ← if careful then isNoNeighbour else pure true
  let f ← g.disjunction inner
  if careful then
    unless noNeighbour do g.neighbour line f
    if let .name s := (start.rest.headD behind).token then
      let isName := f matches .name _
      if isName || calledBare.contains s then
        let _ ← ahead do
          modify fun i => { i with rest := start.rest.drop 1 }
          g.bareCall line s (noNeighbour || !isName)
  match ← attempt (g.alternative careful inner line) with
  | some (condition, no) => return .choice condition f no
  | none => return f

/-- The readers of formulas with at most a given number of formulas inside one another. -/
def upTo : (depth : Nat) → Grammar
  | 0 => ⟨fun _ => throw .tooDeep, fun _ => throw .tooDeep, fun _ => throw .tooDeep,
    fun _ => throw .tooDeep, fun _ _ => throw .tooDeep, fun _ => throw .tooDeep, throw .tooDeep⟩
  | depth + 1 =>
    { expression := fun careful => (upTo depth).choice careful careful
      sequel := fun careful => (upTo depth).choice true careful
      alternatives := fun careful => (upTo depth).disjunction careful
      inversion := fun careful => (upTo depth).denied careful
      operations := fun careful level => (upTo depth).combined careful level
      operand := fun careful => (upTo depth).signed careful
      pattern := fun i => (upTo depth).target i }

end Grammar

/-- How many formulas there can be inside one another. -/
def maxNesting : Nat := 5976

/-- Why a text gives no formula. -/
inductive Unread where
  | malformed (cause : Malformed)
  | tooDeep

/-- What is read of lexemes by the readers of formulas. -/
def readBy {α : Type} (read : Grammar → (careful : Bool) → Reading α)
    (ls : Except Malformed (List Lexeme)) : Except Unread α :=
  match ls with
  | .error cause => .error (.malformed cause)
  | .ok ls =>
    match Grammar.completeBy (read (Grammar.upTo maxNesting)) ls with
    | .ok f => .ok f
    | .error (.flawed cause) | .error (.settled cause) => .error (.malformed cause)
    | .error (.stuck reach) => .error (.malformed ⟨.misplaced, reach.line⟩)
    | .error .tooDeep => .error .tooDeep

/-- The formula that a text is. -/
def parse (s : String) : Except Unread Formula :=
  readBy Grammar.whole (lexemes s)

end Nsis.Formula
