import Nsis.Formula.Execution

/-!
# Formulas inside formulas

A text can be evaluated as a formula by another one, among the names that are seen there or among
the names of records.

## Main definitions

* `Nsis.Evaluator.source` — the value of a formula as it is written.
* `Nsis.Evaluator.namesSeen` — the record of the names that are given at a place.
* `Nsis.Evaluator.callScoped` — the values of functions that depend on the place of their call.
-/

namespace Nsis

namespace Evaluator

open Evaluation

variable (e : Evaluator) (scope : Scope)

/-- How many calls there can be inside one another. -/
def maxCalls : Nat := 990

/-- A formula as it is written. -/
def parsed (s : String) : Evaluation Formula :=
  match Formula.parse s with
  | .ok f => return f
  | .error u => throw u.fault

/-- The value of a formula as it is written. What there is to point out comes first. -/
def source (s : String) : Evaluation Datum := do
  let f ← parsed s
  point [f]
  e.value scope f

/-- The text that data are, and whether it is one of statements; `isOrder` where that is not
said. -/
def sourceText (refused : Fault) (isOrder : Bool) (d : Datum) : Evaluation (String × Bool) := do
  match ← opened d with
  | .text s => return (s, isOrder)
  | .thing "code" _ parts =>
    match parts.lookup "source", parts.lookup "isOrder" with
    | some (.text s), some (.truth isOrder) => return (s, isOrder)
    | _, _ => throw refused
  | o =>
    match o.bytes? with
    | some b => return (String.ofList (b.map fun c => Char.ofNat c.toNat), isOrder)
    | none => throw refused

/-- The value of a text that is a formula, or nothing after its statements. -/
def sourceOrOrder (place : Scope) (s : String) (isOrder : Bool) : Evaluation Datum := do
  if isOrder then
    e.executeText place s
    return .absent
  e.source place s

/-- The record of the names that are given at a place. -/
def namesSeen : Evaluation Datum := do
  match scope.frames, scope.own with
  | a :: _, _ =>
    let given := (← variablesAt a).filterMap fun (s, d) => d.map (s, ·)
    allocated (.record (given.map fun (s, _) => .text s) (given.map (·.2)))
  | [], some a => return .shared a
  | [], none => return .shared scope.world

/-- Whether data have items by their positions. -/
def hasItems : Datum → Bool
  | .text _ | .bytes _ | .buffer _ _ | .list _ | .tuple _ | .entry _ _ _ | .range _ _ _ => true
  | _ => false

/-- The place among the names of records, if they are given. -/
def chosenScope (records : List Datum) : Evaluation Scope := do
  let isRecord := fun (d : Datum) => do
    match ← opened d with
    | .record _ _ => return true
    | _ => return false
  let world := records.headD .absent
  let own := (records.drop 1).headD .absent
  if !Evaluator.isSame own .absent && !(← isRecord own) then throw (.misuse .noNames)
  match world, own with
  | .absent, .absent =>
    let .shared a ← namesSeen scope | return {}
    return { own := some a, world := scope.world }
  | .absent, .shared a => return { own := some a, world := scope.world }
  | .shared w, own =>
    if !(← isRecord world) then throw (.misuse (.noWorld (hasItems (← opened world))))
    if (← entryAt? w Scope.commonNames).isNone then
      let common := (← entryAt? scope.world Scope.commonNames).getD .absent
      putEntry w Scope.commonNames common
    match own with
    | .shared a => return { own := some a, world := w }
    | _ => return { world := w }
  | d, _ => throw (.misuse (.noWorld (hasItems (← opened d))))

/-- A formula that is read now and evaluated later. -/
def readLater (a : Datum.Arguments) : Evaluation Datum := do
  let labels := ["source", "filename", "mode", "flags", "dont_inherit", "optimize"]
  match ← Datum.ordered "compile" labels 0 3 a with
  | some d :: file :: mode :: _ =>
    let (s, _) ← sourceText .notName false d
    let mode ← match mode with
      | some (.text mode) => pure mode
      | _ => throw (.misuse .badMode)
    if mode ∉ ["exec", "eval", "single"] then throw (.misuse .badMode)
    let isOrder := mode ≠ "eval"
    if isOrder then
      let _ ← statementsOf s
    else
      let _ ← parsed s
    return .thing "code" "<module>" [
      ("source", .text s), ("isOrder", .truth isOrder), ("co_name", .text "<module>"),
      ("co_argcount", .number 0), ("co_filename", file.getD .absent), ("co_varnames", .tuple [])]
  | _ => return .absent

/-- The functions that depend on the place of their call. -/
def scopedNames : List String := ["compile", "dir", "eval", "exec", "globals", "locals", "vars"]

/-- The value of a function that depends on the place of its call. -/
def callScoped (name : String) (a : Datum.Arguments) : Evaluation Datum := do
  match name, a.plain with
  | "eval", _ =>
    let ds ← Datum.between name 1 3 (← Datum.unlabelled name a)
    let place ← chosenScope scope (ds.drop 1)
    let (s, isOrder) ← sourceText .notName false (ds.headD .absent)
    e.sourceOrOrder place s isOrder
  | "exec", ds =>
    if ds.isEmpty then throw (Datum.countFault name (.atLeastPlain 1 0))
    if 3 < ds.length then throw (Datum.countFault name (.takesAtMostPlain 3 ds.length))
    let place ← chosenScope scope (ds.drop 1)
    let (s, isOrder) ← sourceText (.misuse .notStatement) true (ds.headD .absent)
    let _ ← e.sourceOrOrder place s isOrder
    return .absent
  | "compile", _ => readLater a
  | "vars", [d] => ownParts d
  | "dir", [d] => allocated (.list ((← partNames d).map .text))
  | "dir", [] =>
    match ← opened (← namesSeen scope) with
    | .record keys _ => allocated (.list ((sortedWords (keys.map Datum.plain)).map .text))
    | _ => return .absent
  | name, ds =>
    let _ ← Datum.unlabelled name a
    if name = "vars" || name = "dir" then
      let _ ← Datum.between name 0 1 ds
    else if !ds.isEmpty then throw (Datum.countFault name (.noneTaken ds.length))
    if name = "globals" then return .shared scope.world else namesSeen scope

end Evaluator

end Nsis
