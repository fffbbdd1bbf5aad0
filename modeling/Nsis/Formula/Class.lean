import Nsis.Datum.Function
import Nsis.Formula.Entry

/-!
# Types and parts on request

Formulas can define types, make data of them, and ask for, give and take away parts by their names.

## Main definitions

* `Nsis.Evaluator.newType` — a type that a formula defines.
* `Nsis.Evaluator.newInstance` — what a type makes of its arguments.
* `Nsis.Evaluator.setPart`, `Nsis.Evaluator.dropPart` — data with a part more, or less.
* `Nsis.Evaluator.partNames` — the names of the parts of data.
-/

namespace Nsis.Evaluator

open Evaluation

variable (e : Evaluator)

/-! ### Types -/

/-- The common types that no other type can belong to. -/
def finalTypes : List String := [
  "NoneType", "bool", "ellipsis", "function", "generator", "memoryview", "method", "range",
  "slice"]

/-- The name of the place where a formula defines something. -/
def placeName : Evaluation Datum := do
  return (← entryAt? 0 "__name__").getD .absent

/-- A type that a formula defines, from its name, the types that it belongs to, and its parts. -/
def newType (ds : List Datum) : Evaluation Datum := do
  let refused := fun (i : Nat) (wanted : String) (d : Datum) =>
    (.misuse (.argumentKind "type.__new__" (some i) "" wanted d.kind) : Fault)
  match ds with
  | [d, bases, parts] =>
    let .text name := d | throw (refused 1 "str" (← opened d))
    let .tuple bases := bases | throw (refused 2 "tuple" (← opened bases))
    let .record keys values ← opened parts | throw (refused 3 "dict" (← opened parts))
    if let some b := bases.find? fun b => finalTypes.contains b.typeName then
      throw (.misuse (.finalType b.typeName))
    let own := (keys.map Datum.plain).zip values
    let here ← placeName
    let place := if (own.lookup "__module__").isSome then [] else [("__module__", here)]
    let fieldPart := match bases.find? Datum.isEntryType with
      | some b => [("_fields", Datum.tuple (b.fieldNames.map .text))]
      | none => []
    let bases := if bases.isEmpty then [.type "object"] else bases
    let id ← allocate (.data .absent)
    return .thing "type" name ((("__bases__", .tuple bases) :: own) ++ place ++ fieldPart
      ++ [(Datum.addressPart, .shared id)]
      ++ [("__doc__", (own.lookup "__doc__").getD .absent), ("__weakref__", .absent)])
  | _ => throw (.misuse .typeArguments)

/-! ### Instances -/

/-- Let the type of new data prepare them. -/
def prepared (t d : Datum) (a : Datum.Arguments) (isChecked : Bool) : Evaluation Datum := do
  match t.classPart? "__init__" with
  | some f =>
    let r ← e.call (.attached f d) a
    match r with
    | .absent => return d
    | r => throw (.misuse (.preparedValue (← opened r).kind))
  | none =>
    if isChecked && !(a.plain.isEmpty && a.labelled.isEmpty) then
      throw (.misuse (.noArguments t.typeName))
    return d

/-- What a type that is no common one makes of its arguments. -/
def newInstance (t : Datum) (a : Datum.Arguments) : Evaluation Datum := do
  if t.isEntryType then
    return ← stored (← Datum.newEntry t (← fieldDefaults t) a)
  let base := t.commonBase
  match t.classPart? "__new__" with
  | some f =>
    let d ← e.call f { a with plain := t :: a.plain }
    if (← opened d).typeOf.isSubtype t then e.prepared t d a false else return d
  | none =>
    if base = "object" then
      let d ← allocated (.thing t.typeName "" [("__class__", t)])
      e.prepared t d a true
    else if Datum.isSubtype (.type base) (.type "BaseException") then
      let d ← allocated (.thing t.typeName "" [("args", .tuple a.plain), ("__class__", t)])
      e.prepared t d a false
    else e.call (.type base) a

/-! ### Parts -/

/-- Parts with a part more, or with another value for it. -/
def withPart (parts : Names) (name : String) (d : Datum) : Names :=
  if (parts.lookup name).isSome then
    parts.map fun (s, p) => if s = name then (s, d) else (s, p)
  else parts ++ [(name, d)]

/-- Why data cannot get a part. -/
def noNewPart (o : Datum) (name : String) : Fault :=
  match o with
  | .type t => .misuse (.fixedType t name)
  | .entry t _ _ => if t.fieldNames.contains name then .misuse .fixedField
    else .misuse (.noPart o.kind name)
  | o =>
    if (o.numberPart? name).isSome || (o.groupPart? name).isSome then
      .misuse (.fixedPart o.kind name)
    else if (Datum.methodNames o.kind).contains name || (Datum.specialMethods o.kind).contains name
    then .misuse (.fixedFunction o.kind name)
    else .misuse (.noPart o.kind name)

/-- Give a part to data, whatever they do about it themselves. -/
def setOwnPart (d : Datum) (name : String) (p : Datum) : Evaluation Unit := do
  match d, ← opened d with
  | .shared a, .thing kind "" parts =>
    if (parts.lookup "__class__").isSome then write a (.thing kind "" (withPart parts name p))
    else throw (.misuse (.noPart (.other kind) name))
  | .shared a, o@(.entry t items own) =>
    if t.takesParts && !t.fieldNames.contains name then
      write a (.entry t items (withPart own name p))
    else throw (noNewPart o name)
  | .shared a, .thing "module" own parts => write a (.thing "module" own (withPart parts name p))
  | _, .thing "type" own parts => writeType own (withPart parts name p)
  | _, .function _ _ _ _ _ _ _ => return
  | _, o => throw (noNewPart o name)

/-- Give a part to data. -/
def setPart (d : Datum) (name : String) (p : Datum) : Evaluation Unit := do
  if (← e.callOwn? d "__setattr__" [.text name, p]).isNone then setOwnPart d name p

/-- Take a part away from data. -/
def dropPart (d : Datum) (name : String) : Evaluation Unit := do
  match d, ← opened d with
  | .shared a, .thing "module" own parts =>
    if (parts.lookup name).isSome then
      write a (.thing "module" own (parts.filter (·.1 ≠ name)))
    else throw (.misuse (.noModulePart own name))
  | _, .thing "type" own parts =>
    if (parts.lookup name).isSome then writeType own (parts.filter (·.1 ≠ name))
    else throw (.misuse (.noTypePart own name))
  | .shared a, .thing kind "" parts =>
    if (parts.lookup name).isSome then write a (.thing kind "" (parts.filter (·.1 ≠ name)))
    else throw (.misuse (.noPart (.other kind) name))
  | .shared a, o@(.entry t items own) =>
    if t.fieldNames.contains name then throw (.misuse .keptField)
    else if (own.lookup name).isSome then write a (.entry t items (own.filter (·.1 ≠ name)))
    else throw (if t.takesParts then .misuse (.noPart o.kind name) else noNewPart o name)
  | _, o => throw (noNewPart o name)

/-- The name of a part that an argument gives. -/
def partName (d : Datum) : Evaluation String := do
  match d with
  | .text s => return s
  | d => throw (.misuse (.notAttributeName (← opened d).kind))

/-- A part of data, or something else if they do not have it. -/
def partOr (d : Datum) (name : String) (usual : Option Datum) : Evaluation Datum := do
  match usual with
  | none => e.partOf d name
  | some usual => tryCatch (e.partOf d name) fun cause =>
    match cause with
    | .misuse c => if c.family = .part then return usual else throw cause
    | cause => throw cause

/-- Whether data have a part. -/
def hasPart (d : Datum) (name : String) : Evaluation Bool := do
  tryCatch ((fun _ => true) <$> e.partOf d name) fun cause =>
    match cause with
    | .misuse c => if c.family = .part then return false else throw cause
    | cause => throw cause

/-- The parts of its own that a datum has, as a record. -/
def ownParts (d : Datum) : Evaluation Datum := do
  match ← opened d with
  | .thing "module" _ parts => allocated (Datum.partsRecord parts)
  | .thing "type" _ parts => allocated (Datum.partsRecord (parts.filter (·.1 ≠ "__bases__")))
  | .thing _ "" parts =>
    if (parts.lookup "__class__").isSome then allocated (Datum.partsRecord parts)
    else if d.typeOf.isSubtype (.type "BaseException") then allocated (.record [] [])
    else throw (.misuse .noParts)
  | .entry t _ own =>
    if t.takesParts then allocated (Datum.partsRecord own) else throw (.misuse .noParts)
  | .type _ | .function _ _ _ _ _ _ _ | .thing "function" _ _ => allocated (.record [] [])
  | o =>
    if o.typeOf.isSubtype (.type "BaseException") then allocated (.record [] [])
    else throw (.misuse .noParts)

/-- Words in order, each one once. -/
def sortedWords (words : List String) : List String :=
  let sorted := words.mergeSort fun s t => ¬ t.toList < s.toList
  sorted.foldr (fun s done => if done.head? = some s then done else s :: done) []

/-- The names of the parts of data. -/
def partNames (d : Datum) : Evaluation (List String) := do
  let o ← opened d
  let ofKind := fun (k : Datum.Kind) => Datum.methodNames k ++ Datum.specialMethods k
    ++ ["__class__", "__doc__"]
    ++ if k = .number || k = .truth then ["real", "imag", "numerator", "denominator"] else []
  let ofType := fun (t : Datum) => t.ancestors.flatMap fun
    | .thing _ _ parts =>
      (parts.map (·.1)).filter (fun s => s ≠ "__bases__" && s ≠ Datum.addressPart)
        ++ if t.isEntryType then "_make" :: Datum.entryMethods else []
    | t => ofKind (Datum.kindNamed t.typeName)
  let names := match o with
    | .thing "module" _ parts => parts.map (·.1)
    | .thing "type" _ _ | .type _ => ofType o
    | .entry t _ own => ofType t ++ own.map (·.1)
    | .thing _ _ parts => ofType o.typeOf ++ parts.map (·.1)
    | o => ofKind o.kind
  return sortedWords names

end Nsis.Evaluator
