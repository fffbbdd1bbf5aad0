import Nsis.Datum.Change
import Nsis.Formula.Walk

/-!
# Operations on data in a memory

Operations, relations, items and parts of data some of which are kept at addresses. Data whose type
a formula defines can have functions of their own for all of these.

## Main definitions

* `Nsis.Evaluator.combined`, `Nsis.Evaluator.signed` — operations on two data and on one.
* `Nsis.Evaluator.related` — relations between two data.
* `Nsis.Evaluator.itemOf`, `Nsis.Evaluator.partOf` — an item and a part of data.
* `Nsis.Evaluator.sizeOf`, `Nsis.Evaluator.written` — the size of data, and how they are written.
-/

namespace Nsis.Evaluator

open Evaluation

mutual

/-- Whether data are the very same. What is kept at an address is the same as nothing else. -/
def isSame : Datum → Datum → Bool
  | .shared a, .shared b => a = b
  | .absent, .absent => true
  | .truth b, .truth c => b = c
  | .number m, .number n => m = n
  | .fraction x, .fraction y => x.toBits = y.toBits
  | .complex x y, .complex u v => x.toBits = u.toBits && y.toBits = v.toBits
  | .text s, .text t => s = t
  | .bytes b, .bytes c => b = c
  | .type s, .type t | .builtin s, .builtin t => s = t
  | .tuple ds, .tuple es => areSame ds es
  | .entry s ds _, .entry t es _ => s.typeName = t.typeName && areSame ds es
  | .thing k s ps, .thing l t qs =>
    match Datum.address? ps, Datum.address? qs with
    | some a, some b => a = b
    | none, none => k = l && s = t && !s.isEmpty && ps.length = qs.length
    | _, _ => false
  | _, _ => false

/-- Whether data are the very same as others, one by one. -/
def areSame : List Datum → List Datum → Bool
  | [], [] => true
  | d :: ds, e :: es => isSame d e && areSame ds es
  | _, _ => false

end

variable (e : Evaluator)

/-- Whether data stand for an operation that is not there. -/
def isNotImplemented : Datum → Bool
  | .thing "NotImplementedType" _ _ => true
  | _ => false

/-- The value of a function that the own type of the first datum has, or else of one that the own
type of the second datum has for the operands in their order. -/
def ownOperation? (name reflected : String) (d d' : Datum) : Evaluation (Option Datum) := do
  match ← e.callOwn? d name [d'] with
  | some r =>
    if !isNotImplemented r then return some r
    else return (← e.callOwn? d' reflected [d]).filter (!isNotImplemented ·)
  | none => return (← e.callOwn? d' reflected [d]).filter (!isNotImplemented ·)

/-- The name of an operation as a function. -/
def operationName (o : Operation) : String :=
  ((Datum.operationMethods.find? fun (_, p) => p = o).map (·.1)).getD "__matmul__"

/-- The name of an operation as a function of its second operand. -/
def reflectedName (o : Operation) : String :=
  ((Datum.reflectedMethods.find? fun (_, p) => p = o).map (·.1)).getD "__rmatmul__"

/-- An operation on two data. -/
def combined (o : Operation) (d d' : Datum) : Evaluation Datum := do
  match d, d' with
  | .number m, .number n => Datum.calculated o m n
  | d, d' =>
    match ← e.ownOperation? (operationName o) (reflectedName o) d d' with
    | some r => return r
    | none =>
      let left ← opened d
      let right ← if o = .remainder then settled d' else opened d'
      stored (← Datum.combine o left right)

/-- An operation on one datum. -/
def signed (o : Operation.Unary) (d : Datum) : Evaluation Datum := do
  let name := match o with
    | .positive => "__pos__"
    | .negative => "__neg__"
    | .complement => "__invert__"
  match ← e.callOwn? d name [] with
  | some r => return r
  | none => Datum.applied o (← opened d)

/-! ### Relations -/

/-- Whether two data are equal. -/
def areEqual (d d' : Datum) : Evaluation Bool := do
  if isSame d d' then return true
  match ← e.ownOperation? "__eq__" "__eq__" d d' with
  | some r => e.holds r
  | none => return (← settled d).equals (← settled d')

/-- Whether a group has an item. -/
def isWithin (d group : Datum) : Evaluation Bool := do
  match ← e.callOwn? group "__contains__" [d] with
  | some r => e.holds r
  | none =>
    if ← isLazy group then
      tryCatch (e.walk group false fun _ item => do
        return if ← e.areEqual item d then .done true else .yield false) fun
        | .notGroup k => throw (.misuse (.notContainer k))
        | cause => throw cause
    else
      let m ← get
      match m.opened group with
      | .record keys _ => return keys.any (Datum.equals (← m.key d))
      | .list items | .tuple items | .entry _ items _ =>
        items.anyM fun item => e.areEqual item d
      | g => (m.settled g).contains (m.settled d)

/-- The relation between two data in the other order. -/
def turnedRelation : Relation → Relation
  | .less => .greater
  | .lessEqual => .greaterEqual
  | .greater => .less
  | .greaterEqual => .lessEqual
  | r => r

/-- The name of a relation as a function. -/
def relationName (r : Relation) : String :=
  ((Datum.relationMethods.find? fun (_, p) => p = r).map (·.1)).getD ""

/-- Whether two data are in a relation, or what the functions of their own types say. -/
def related (r : Relation) (d d' : Datum) : Evaluation Datum := do
  match r with
  | .same => return .truth (isSame d d')
  | .notSame => return .truth !(isSame d d')
  | .within => return .truth (← e.isWithin d d')
  | .notWithin => return .truth !(← e.isWithin d d')
  | r =>
    match ← e.ownOperation? (relationName r) (relationName (turnedRelation r)) d d' with
    | some x => return x
    | none =>
      match r with
      | .equal => return .truth (← e.areEqual d d')
      | .unequal => return .truth !(← e.areEqual d d')
      | r => return .truth (← (← settled d).isBefore r (← settled d'))

/-- Whether a datum comes before another one. -/
def comesBefore (r : Relation) (d d' : Datum) : Evaluation Bool := do
  e.holds (← e.related r d d')

/-! ### Items and sizes -/

/-- An item of a group. -/
def itemOf (group position : Datum) : Evaluation Datum := do
  match ← e.callOwn? group "__getitem__" [position] with
  | some d => return d
  | none =>
    match ← opened group with
    | .record keys values =>
      match Datum.lookup? keys values (← keyed position) with
      | some d => return d
      | none => throw (.noKey (← settled position).shown)
    | g => do stored (← g.item (← settled position))

/-- How many items a group has. -/
def sizeOf (d : Datum) : Evaluation Nat := do
  match ← e.callOwn? d "__len__" [] with
  | some n =>
    let n ← Datum.wholeOf (← opened n)
    if n < 0 then throw (.misuse .negativeSize)
    return n.toNat
  | none => (← opened d).size

/-! ### Texts -/

/-- A text that a function of the own type of data gives for them. -/
def ownText? (d : Datum) (name : String) : Evaluation (Option String) := do
  match ← e.callOwn? d name [] with
  | some (.text s) => return some s
  | some r => throw (.misuse (.notOwnText name (← opened r).kind))
  | none => return none

/-- How data are written inside others. -/
def shown (d : Datum) : Evaluation String := do
  match ← e.ownText? d "__repr__" with
  | some s => return s
  | none => return (← (← settled d).writable).shown

/-- How data are written on their own. -/
def written (d : Datum) : Evaluation String := do
  match d with
  | .text s => return s
  | d =>
    match ← e.ownText? d "__str__" with
    | some s => return s
    | none =>
      match ← e.ownText? d "__repr__" with
      | some s => return s
      | none => return (← (← settled d).writable).plain

/-- Data in a format. -/
def formatted (d : Datum) (format : String) : Evaluation String := do
  match ← e.callOwn? d "__format__" [.text format] with
  | some (.text s) => return s
  | some r => throw (.misuse (.notOwnText "__format__" (← opened r).kind))
  | none => if format.isEmpty then e.written d else (← settled d).formatted format

/-! ### Parts -/

/-- Whether data have a part of their own with a name, besides those that their type gives them. -/
def hasOwnPart (o : Datum) (name : String) : Bool :=
  match o with
  | .thing _ _ parts => (parts.lookup name).isSome
  | .entry t _ own => (own.lookup name).isSome || t.fieldNames.contains name
  | _ => false

/-- What a part of a type is for data of the type. -/
def bestowed (d p : Datum) : Evaluation Datum := do
  match ← opened p with
  | .function _ _ _ _ _ _ _ => return .attached p d
  | .thing "property" _ [(_, f)] => e.call f { plain := [d] }
  | .thing "staticmethod" _ [(_, f)] => return f
  | .thing "classmethod" _ [(_, f)] => return .attached f (← opened d).typeOf
  | _ => return p

/-- Data that belong to what is opened belong to what is kept. -/
def reowned (d o p : Datum) : Datum :=
  match p with
  | .method owner name => if owner.isType && !o.isType then p else .method d name
  | .attached f _ => .attached f d
  | p => p

/-- A part that data have as they are. Functions tell where they were defined. -/
def partNow (o : Datum) (name : String) : Evaluation (Except Fault Datum) := do
  match o, name with
  | .function _ _ _ _ _ _ world, "__module__" =>
    return .ok ((← entryAt? world "__name__").getD .absent)
  | o, name => return o.part name

/-- A part of data by its name. -/
def partOf (d : Datum) (name : String) : Evaluation Datum := do
  let o ← opened d
  let isOwn := hasOwnPart o name
  match (if isOwn || o.isType then none else o.inherited? name) with
  | some p => e.bestowed d p
  | none =>
    match ← partNow o name with
    | .ok p =>
      match o.isType, ← opened p with
      | true, .thing "staticmethod" _ [(_, f)] => return f
      | true, .thing "classmethod" _ [(_, f)] => return .attached f d
      | _, _ => stored (reowned d o p)
    | .error cause =>
      match ← e.callOwn? d "__getattr__" [.text name] with
      | some p => return p
      | none => throw cause

end Nsis.Evaluator
