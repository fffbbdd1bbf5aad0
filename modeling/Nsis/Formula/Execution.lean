import Nsis.Formula.Depth
import Nsis.Formula.Method
import Nsis.Formula.Notice
import Nsis.Formula.Statement

/-!
# Execution of statements

Statements are executed one after the other, among the names that are seen at their place.

## Main definitions

* `Nsis.Evaluator.assignTo` — give a value to a target.
* `Nsis.Evaluator.execute` — execute a statement.
* `Nsis.Evaluator.executeText` — execute the statements of a text.
-/

namespace Nsis

/-- The fault of a text that gives no formula. -/
def Formula.Unread.fault : Unread → Fault
  | .malformed cause => .badFormula cause
  | .tooDeep => .noMemory

namespace Evaluator

open Evaluation

variable (e : Evaluator) (scope : Scope)

/-! ### Targets -/

/-- Whether the items of data can change. -/
def hasLooseItems : Datum → Bool
  | .list _ | .record _ _ | .buffer false _ => true
  | _ => false

/-- Do something to an item of data by a function of theirs. -/
def changeItem (d : Datum) (name : String) (args : List Datum) (refused : Datum.Kind → Misuse) :
    Evaluation Unit := do
  if (← e.callOwn? d name args).isNone then
    let o ← opened d
    if !hasLooseItems o then throw (.misuse (refused o.kind))
    let _ ← e.callMethod d name { plain := args }

mutual

/-- Give a value to a target. -/
def assignTo : Formula → Datum → Evaluation Unit
  | .name s, d => scope.give s d
  | .part f s, d => do e.setPart (← e.value scope f) s d
  | .item f i, d => do
    let owner ← e.value scope f
    e.changeItem owner "__setitem__" [← e.value scope i, d] .noItemChange
  | .tuple targets, d | .list targets, d => do
    let ps := targets.map fun
      | .starred _ => Pattern.rest (.several [])
      | _ => .several []
    let wanted := if ps.any Pattern.isRest then walkRoom else ps.length + 1
    let items ← tryCatch (e.firstItems wanted d) fun
      | .notGroup k => throw (.misuse (.notUnpackable k))
      | cause => throw cause
    assignToAll targets (← Pattern.shares ps items)
  | .starred f, d => assignTo f d
  | _, _ => return

/-- Give values to targets, one for each. -/
def assignToAll : List Formula → List Datum → Evaluation Unit
  | f :: fs, d :: ds => do
    assignTo f (← stored d)
    assignToAll fs ds
  | _, _ => return

end

/-- Take a name away. -/
def forget (s : String) : Evaluation Unit := do
  let a := scope.own.getD scope.world
  match (← get).content a with
  | .record keys values =>
    let left := (keys.zip values).filter fun (k, _) => !Datum.equals k (.text s)
    if left.length = keys.length then throw (.unknownName s)
    write a (.record (left.map (·.1)) (left.map (·.2)))
  | _ => throw (.unknownName s)

/-- Take away what a target has. -/
def removeTarget : Formula → Evaluation Unit
  | .name s => forget scope s
  | .part f s => do dropPart (← e.value scope f) s
  | .item f i => do
    let owner ← e.value scope f
    e.changeItem owner "__delitem__" [← e.value scope i] .noItemRemoval
  | _ => return

/-- The value of an operation that may change its first operand. -/
def changed (o : Operation) (d d' : Datum) : Evaluation Datum := do
  match o, d, ← opened d with
  | .plus, .shared _, .list _ => e.callMethod d "__iadd__" { plain := [d'] }
  | .bitwiseOr, .shared _, .record _ _ => e.callMethod d "__ior__" { plain := [d'] }
  | o, .shared a, .set _ =>
    let r ← e.combined o d d'
    write a (← opened r)
    return d
  | o, d, _ =>
    tryCatch (e.combined o d d') fun
      | .noOperation _ k l => throw (.misuse (.noChange o k l))
      | cause => throw cause

/-! ### Statements -/

/-- The module at a path, or the one that its first word names. -/
def moduleAt (path : List String) : Evaluation Datum :=
  e.call (.builtin "__import__") { plain := [.text (".".intercalate path)] }

/-- Fail with data of a type of faults. -/
def failWith (cause : Option Formula) : Evaluation Unit := do
  let some f := cause | throw (.misuse (.raised "RuntimeError" "No active exception to reraise"))
  let d ← e.value scope f
  let o ← opened d
  let isFault := fun (t : Datum) => t.isSubtype (.type "BaseException")
  if (o.isType && isFault o) || isFault o.typeOf then
    let _ ← e.raise [d]
  throw (.misuse .notRaisable)

/-- Execute a statement. -/
def execute : Statement → Evaluation Unit
  | .value f => do
    let _ ← e.value scope f
  | .assign targets f => do
    let d ← e.value scope f
    targets.forM fun t => e.assignTo scope t d
  | .change target o f => do
    let d ← e.value scope target
    e.assignTo scope target (← e.changed o d (← e.value scope f))
  | .remove targets => targets.forM fun t => e.removeTarget scope t
  | .nothing => return
  | .bring path label => do
    let d ← e.moduleAt path
    scope.give (label.getD (path.headD "")) d
  | .bringParts path parts => do
    let d ← e.moduleAt path
    parts.forM fun (s, label) => do scope.give label (← e.partOf d s)
  | .fail cause => e.failWith scope cause
  | .check condition reason => do
    unless ← e.holds (← e.value scope condition) do
      let text ← match reason with
        | some f => e.written (← e.value scope f)
        | none => pure ""
      throw (.misuse (.raised "AssertionError" text))

/-! ### Texts -/

/-- How many formulas there can be inside one another. -/
def maxDepth : Nat := 2975

/-- Point out what there is to point out about formulas that are not too deep. -/
def point (fs : List Formula) : Evaluation Unit := do
  if fs.any fun f => maxDepth < f.depth then throw (.misuse (.tooDeep true))
  let lines := (fs.flatMap Formula.notices).map Formula.Notice.line
  modify fun m => { m with notices := m.notices ++ String.join lines }

/-- The statements of a text. -/
def statementsOf (s : String) : Evaluation (List Statement) :=
  match Statement.parse s with
  | .ok ss => return ss
  | .error u => throw u.fault

/-- Execute the statements of a text. -/
def executeText (s : String) : Evaluation Unit := do
  let ss ← statementsOf s
  point (ss.flatMap Statement.formulas)
  ss.forM fun s => e.execute scope s

end Evaluator

end Nsis
