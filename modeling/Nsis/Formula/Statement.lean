import Nsis.Formula.Parse

/-!
# Statements

A text can give orders besides being a formula: give values to names, parts and items, change them
or take them away, import modules, and fail. Statements stand in lines, or side by side with
semicolons between them.

## Main definitions

* `Nsis.Statement` — statements.
* `Nsis.Statement.parse` — the statements of a text.
-/

namespace Nsis

/-- Statements. -/
inductive Statement where
  /-- A formula, whose value does not matter. -/
  | value (f : Formula)
  /-- What a formula gives, for several targets. -/
  | assign (targets : List Formula) (f : Formula)
  /-- An operation on what a target has, which gets the value. -/
  | change (target : Formula) (o : Operation) (f : Formula)
  | remove (targets : List Formula)
  | nothing
  /-- A module by its path, with a name of its own. -/
  | bring (path : List String) (label : Option String)
  /-- Parts of a module with the names that they get. -/
  | bringParts (path : List String) (parts : List (String × String))
  | fail (cause : Option Formula)
  /-- A condition that has to hold, or else a reason for the fault. -/
  | check (condition : Formula) (reason : Option Formula)

/-- The formulas in a statement. -/
def Statement.formulas : Statement → List Formula
  | value f => [f]
  | assign targets f => f :: targets
  | change target _ f => [target, f]
  | remove targets => targets
  | nothing | bring _ _ | bringParts _ _ => []
  | fail cause => cause.toList
  | check condition reason => condition :: reason.toList

namespace Formula

open Malformed (Flaw)
open Reading

mutual

/-- The part of a formula that cannot get a value. -/
def unfit? : Formula → Option Formula
  | .name _ | .part _ _ | .item _ _ => none
  | .tuple fs | .list fs => unfitAmong? fs
  | .starred f => unfit? f
  | f => some f

/-- The part of formulas that cannot get a value. -/
def unfitAmong? : List Formula → Option Formula
  | [] => none
  | f :: fs => (unfit? f).orElse fun _ => unfitAmong? fs

end

namespace Grammar

variable (g : Grammar) (careful : Bool)

/-- Refuse a target that cannot get a value. -/
def checkTarget (line : Nat) (f : Formula) : Reading Unit := do
  if let some wrong := unfit? f then
    let isWord := wrong matches .absent | .truth _ | .ellipsis
    let isWhole := !(f matches .tuple _ | .list _)
    refuse careful line (if isWhole && !isWord then .notAssignable wrong.title
      else .notVariable wrong.title)

/-- A formula, or several ones with commas. -/
def values : Reading Formula :=
  g.sequence careful (g.expression careful)

/-- The operation that changes a value, by its sign with an equals sign. -/
def changing? : Token → Option Operation
  | .sign s => if s.endsWith "=" then Operation.ofSign? (String.ofList s.toList.dropLast) else none
  | _ => none

/-- A name that has to come next. -/
def label : Reading String := do
  match ← peek with
  | .name s =>
    skip
    return s
  | _ => stuck

/-- Names with points between them. -/
def path : Reading (List String) := do
  let s ← label
  let ss ← many (fun ss => do
    expect (sign ".")
    return some ((← label) :: ss)) [s]
  return ss.reverse

/-- The name that something gets instead of its own. -/
def relabelled : Reading (Option String) := do
  if ← accepts (.word "as") then return some (← label)
  return none

/-- Things with commas between them. -/
def listed {α : Type} (item : Reading α) : Reading (List α) := do
  let a ← item
  let as ← many (fun as => do
    expect (sign ",")
    return some ((← item) :: as)) [a]
  return as.reverse

/-- What gets the value of a formula, behind its first target. -/
def assignment (line : Nat) (target : Formula) : Reading Statement := do
  checkTarget careful line target
  let f ← g.values careful
  let (targets, f) ← many (fun (targets, f) => do
    expect (sign "=")
    checkTarget careful line f
    return some (f :: targets, ← g.values careful)) ([target], f)
  return .assign targets.reverse f

/-- A statement that begins with a formula. -/
def formulaStatement (line : Nat) : Reading Statement := do
  let f ← g.values careful
  match ← peek with
  | .sign "=" =>
    skip
    g.assignment careful line f
  | .sign ":" =>
    skip
    let _ ← g.expression careful
    if ← accepts (sign "=") then return .assign [f] (← g.values careful)
    return .nothing
  | t =>
    match changing? t with
    | some o =>
      skip
      return .change f o (← g.values careful)
    | none => return .value f

/-- Statements that a word begins: several ones for several imports. -/
def wordStatement (word : String) : Reading (List Statement) := do
  skip
  match word with
  | "pass" => return [.nothing]
  | "global" =>
    let _ ← listed label
    return [.nothing]
  | "del" =>
    let f ← g.values careful
    return [.remove (match f with
      | .tuple fs => fs
      | f => [f])]
  | "import" =>
    listed do
      let path ← path
      return .bring path (← relabelled)
  | "from" =>
    let path ← path
    expect (.word "import")
    let parts ← listed do
      let s ← label
      return (s, (← relabelled).getD s)
    return [.bringParts path parts]
  | "raise" =>
    let cause ← attempt (g.expression careful)
    if cause.isSome && (← accepts (.word "from")) then
      let _ ← g.expression careful
    return [.fail cause]
  | "assert" =>
    let condition ← g.expression careful
    if ← accepts (sign ",") then return [.check condition (some (← g.expression careful))]
    return [.check condition none]
  | _ => stuck

/-- The words that begin statements. -/
def statementWords : List String := [
  "pass", "global", "del", "import", "from", "raise", "assert"]

/-- The statements of a line. -/
def statementLine : Reading (List Statement) := do
  let one : Reading (List Statement) := do
    let line := (← here).line
    match ← peek with
    | .word s =>
      if statementWords.contains s then g.wordStatement careful s
      else return [← g.formulaStatement careful line]
    | _ => return [← g.formulaStatement careful line]
  let first ← one
  let rest ← many (fun done => do
    expect (sign ";")
    if ← sees .newline then return none
    return some (done ++ (← one))) first
  let _ ← accepts (sign ";")
  expect .newline
  return rest

/-- The statements of a text. -/
def statements : Reading (List Statement) := do
  let found ← many (fun done => do
    return some (done ++ (← g.statementLine careful))) []
  expect .finish
  return found

end Grammar

end Formula

/-- The statements of a text. -/
def Statement.parse (s : String) : Except Formula.Unread (List Statement) :=
  Formula.readBy (fun g careful => g.statements careful) (Formula.allLexemes s)

end Nsis
