import Nsis.Formula.Grammar

/-!
# Operands of formulas

Values with the parts, calls and items of them that are asked for, and the operations on them.

## Main definitions

* `Nsis.Formula.Grammar.arguments` — the arguments of a call.
* `Nsis.Formula.Grammar.index` — what stands between square brackets behind a value.
* `Nsis.Formula.Grammar.primary` — a value with what is asked for of it.
* `Nsis.Formula.Grammar.combined` — operations.
-/

namespace Nsis.Formula.Grammar

open Malformed (Flaw)
open Reading

variable (g : Grammar) (careful : Bool)

/-! ### Arguments -/

/-- Whether an argument is a record of arguments. -/
def isSpread : Formula → Bool
  | .doubleStarred _ => true
  | _ => false

/-- The name of an argument. -/
def label? : Formula → Option String
  | .labelled s _ => some s
  | _ => none

/-- An argument that is a value, behind earlier ones. -/
def plainArgument (earlier : List Formula) (line : Nat) : Reading Formula := do
  let given := (← get).given.length
  let f ← g.expression careful
  if ← sees (sign "=") then
    if careful then
      match f with
      | .absent | .truth _ => flaw line (.notVariable f.title)
      | _ => flaw line .argumentAssignment
    stuck
  if ← sees (sign ":=") then stuck
  if ← seesClauses then
    let f ← g.gathering careful .series given f
    if earlier.isEmpty && (← sees (sign ")")) then return f
    if careful && (!earlier.isEmpty || (← sees (sign ","))) then flaw line .bareSeries
    stuck
  return f

/-- An argument of a call, behind earlier ones. -/
def argument (earlier : List Formula) : Reading Formula := do
  let line := (← here).line
  if ← accepts (sign "**") then return .doubleStarred (← g.expression careful)
  if ← accepts (sign "*") then
    if earlier.any isSpread then
      if careful then flaw line .lateItems else stuck
    let f ← g.starredValue careful line
    if careful && earlier.isEmpty then g.misgathered line .starredGathering
    return .starred f
  match ← peek, ← second with
  | .name s, .sign "=" =>
    skip
    skip
    let f ← g.expression careful
    if careful then g.misgathered line .assignment
    return .labelled s f
  | .name s, .sign ":=" => g.naming careful s
  | _, _ => g.plainArgument careful earlier line

/-- Whether a value comes behind named arguments, and whether these are a record of arguments
then. -/
def late? : List Formula → Option Bool
  | [] => none
  | f :: fs =>
    if isSpread f || (label? f).isSome then
      let unnamed := fs.dropWhile fun e => isSpread e || (label? e).isSome || e matches .starred _
      if unnamed.isEmpty then none
      else some ((f :: fs.take (fs.length - unnamed.length)).any isSpread)
    else late? fs

/-- The first text that comes again. -/
def repeated? : List String → Option String
  | [] => none
  | s :: ss => if ss.contains s then some s else repeated? ss

/-- The arguments of a call, up to the closing bracket. -/
def arguments : Reading (List Formula) := do
  if ← accepts (sign ")") then return []
  let line := (← here).line
  let f ← g.argument careful []
  let fs ← many (fun fs => do
    expect (sign ",")
    if ← sees (sign ")") then return none
    return some ((← g.argument careful fs) :: fs)) [f]
  let _ ← accepts (sign ",")
  let fs := fs.reverse
  if let some unpacked := late? fs then
    if careful then flaw line (.lateArgument unpacked) else stuck
  expect (sign ")")
  if let some s := repeated? (fs.filterMap label?) then doubt line (.repeatedArgument s)
  return fs

/-! ### Positions -/

/-- A bound of a slice, if there is one. -/
def bound : Reading (Option Formula) := do
  let t ← peek
  if t = sign ":" || t = sign "]" || t = sign "," then return none
  return some (← g.expression careful)

/-- A position or a slice, one of those that stand between square brackets. -/
def place : Reading Formula := do
  let line := (← here).line
  if ← accepts (sign "*") then return .starred (← g.starredValue careful line)
  if let some s ← given? then return ← g.naming careful s
  let start ← if ← sees (sign ":") then pure none else some <$> g.named careful
  if ← accepts (sign ":") then
    let stop ← g.bound careful
    let step ← if ← accepts (sign ":") then g.bound careful else pure none
    return .slice start stop step
  match start with
  | some f => return f
  | none => stuck

/-- What stands between square brackets behind a value. -/
def index : Reading Formula := do
  let line := (← here).line
  let f ← g.place careful
  let comma ← sees (sign ",")
  let fs ← many (fun fs => do
    expect (sign ",")
    if ← sees (sign "]") then return none
    return some ((← g.place careful) :: fs)) [f]
  let _ ← accepts (sign ",")
  let fs := fs.reverse
  let isSliced := fs.any fun f => f matches .slice _ _ _
  g.closed (careful && !isSliced) line "]" fs comma
  return if !comma && !(f matches .starred _) then f else .tuple fs

/-! ### Values and operations -/

/-- A value. -/
def atom : Reading Formula := do
  let line := (← here).line
  match ← peek with
  | .text _ => g.text
  | .name s =>
    skip
    return .name s
  | .numeral n =>
    skip
    ofNumeral line n
  | t =>
    if t = .word "True" then
      skip
      return .truth true
    else if t = .word "False" then
      skip
      return .truth false
    else if t = .word "None" then
      skip
      return .absent
    else if t = sign "..." then
      skip
      return .ellipsis
    else if t = sign "(" then
      skip
      g.bracket careful line
    else if t = sign "[" then
      skip
      g.square careful
    else if t = sign "\x7b" then
      skip
      g.brace careful
    else stuck

/-- A value with the parts, calls and items of it that are asked for. -/
def primary : Reading Formula := do
  let f ← g.atom careful
  many (fun f => do
    let t ← peek
    if t = sign "." then
      skip
      match ← peek with
      | .name s =>
        skip
        return some (.part f s)
      | _ => stuck
    else if t = sign "(" then
      skip
      return some (.call f (← g.arguments careful))
    else if t = sign "[" then
      skip
      return some (.item f (← g.index careful))
    else
      if careful then g.misplacedBrace
      return none) f

/-- A value that may be raised to a power. -/
def power : Reading Formula := do
  let line := (← here).line
  let awaited ← accepts (.word "await")
  let f ← g.primary careful
  if awaited then
    doubt line (if (← get).inFunction then .outsideWaiting "await" else .outsideFunction "await")
  let exponent ← attempt do
    expect (sign "**")
    g.operand careful
  match exponent with
  | some e => return .combined .power f e
  | none => return f

/-- A value that may have a sign in front. -/
def signed : Reading Formula := do
  match ← peek with
  | .sign s =>
    match Operation.Unary.ofSign? s with
    | some o =>
      skip
      return .signed o (← g.operand careful)
    | none => g.power careful
  | _ => g.power careful

/-- Operations that bind at least as tightly as `level`. -/
def combined (level : Nat) : Reading Formula := do
  let f ← g.signed careful
  many (fun f => do
    match operation? (← peek) with
    | some o =>
      if level ≤ o.level && o ≠ .power then
        skip
        return some (.combined o f (← g.operations careful o.rightLevel))
      else return none
    | none => return none) f

end Nsis.Formula.Grammar
