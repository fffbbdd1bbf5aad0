import Nsis.Datum.Deflation
import Nsis.Datum.File
import Nsis.Formula.Group
import Nsis.Formula.Places

/-!
# Calls of functions of data

A function that belongs to data is called with arguments. It may change the data, go through the
items of its arguments, or ask a stream for its next item.

## Main definitions

* `Nsis.Evaluator.raise` — fail as a formula asks for.
* `Nsis.Evaluator.callMethod` — the value of a function of data.
* `Nsis.Evaluator.callUnbound` — the value of a function of a type for the first argument.
-/

namespace Nsis.Evaluator

open Evaluation

variable (e : Evaluator)

/-! ### Faults on request -/

/-- The fault that data of a type of faults are. -/
def faultOf (kind : String) (d : Datum) : Fault :=
  if kind = "StopIteration" then .misuse .exhausted
  else
    .misuse (.raised kind d.plain)

/-- Fail as a formula asks for: with data of a type of faults, or with a type of which they are
made. -/
def raise (args : List Datum) : Evaluation Datum := do
  let isFault := fun (t : Datum) => t.isSubtype (.type "BaseException")
  match args with
  | d :: rest =>
    let o ← opened d
    let made ← if o.isType && isFault o then
        match rest with
        | [] | .absent :: _ => e.call d { plain := [] }
        | v :: _ => if isFault (← opened v).typeOf then pure v else e.call d { plain := [v] }
      else pure d
    let o ← settled made
    if isFault o.typeOf then throw (faultOf o.kind.name o)
    throw (.misuse (.notFault o.kind))
  | [] => throw (Datum.countFault "throw" (.atLeast 1 0))

/-! ### Streams -/

/-- The value of a function of a stream. -/
def callStreamMethod (d : Datum) (a : Nat) (kind name : String) (args : List Datum) :
    Evaluation Datum := do
  match name, args with
  | "__next__", [] => e.nextOf d none
  | "__iter__", [] => return d
  | "send", [_] => e.nextOf d none
  | "close", [] =>
    advance a kind (.items [])
    return .absent
  | "throw", args =>
    advance a kind (.items [])
    tryCatch (e.raise args) fun
      | .misuse .exhausted => throw (.misuse .lostEnd)
      | cause => throw cause
  | name, args =>
    let o : Datum := .thing kind (Text.decimal a) []
    stored (← o.callMethod name { plain := args })

/-! ### Groups -/

/-- The functions that go through the items of their arguments. -/
def consumers : List String := [
  "__iadd__", "__ior__", "__setitem__", "difference", "difference_update", "extend", "from_bytes",
  "fromkeys", "intersection", "intersection_update", "isdisjoint", "issubset", "issuperset", "join",
  "symmetric_difference", "symmetric_difference_update", "union", "update"]

/-- An argument whose items are all there. -/
def gone (d : Datum) : Evaluation Datum := do
  if ← isLazy d then
    tryCatch (.tuple <$> e.items d) fun
      | .notGroup _ => opened d
      | cause => throw cause
  else opened d

/-- The arguments of a function, with the items of groups where it goes through them. -/
def prepare (name : String) (args : List Datum) : Evaluation (List Datum) :=
  if consumers.contains name then
    if name = "__setitem__" then
      match args with
      | [i, d] => do
        match i with
        | .slice _ _ _ => return [i, ← e.gone d]
        | _ => return args
      | args => return args
    else args.mapM e.gone
  else return args

/-- The value of a function that may change the data at an address. -/
def callChange? (d o : Datum) (name : String) (a : Datum.Arguments) :
    Evaluation (Option Datum) := do
  let .shared address := d | return none
  let changed := match o with
    | .thing kind _ parts =>
      if kind = Datum.fileKind then fun (_ : Datum.Look) (args : List Datum) =>
        Datum.changeFile? parts name args
      else fun _ args => Datum.changeDeflation? kind parts name args
    | o => fun l args => o.change? l name { a with plain := args }
  let l ← look
  if (changed l a.plain).isNone then return none
  Datum.checkArguments o name a
  let args ← e.prepare name a.plain
  let args ← match o with
    | .thing _ _ _ => args.mapM fun x => settled x
    | _ => pure args
  match changed (← look) args with
  | none => return none
  | some r =>
    let c ← (r : Except Fault Datum.Change)
    write address c.data
    if c.givesOwner then return some d
    return some (← stored c.value)

/-- Put the list at an address in order. It is empty while its keys are made. -/
def sortList (address : Nat) (items : List Datum) (a : Datum.Arguments) : Evaluation Datum := do
  if !a.plain.isEmpty then throw (.misuse (.noPositional "sort"))
  let (key, isReversed) ← sortingOf a
  write address (.list [])
  let found ← tryCatch (e.sorted items key isReversed) fun cause => do
    write address (.list items)
    throw cause
  write address (.list found)
  return .absent

/-- The value of a function of a type whose tuples have fields. -/
def callMake (t : Datum) (a : Datum.Arguments) : Evaluation Datum := do
  let parameters : Parameters := { plain := ["cls", "iterable"] }
  let a := { a with plain := t :: a.plain }
  let bound ← parameters.bind (t.fieldOwner ++ "._make") [] a
  let items ← e.items ((bound.lookup "iterable").getD .absent)
  stored (← Datum.makeEntry t items)

/-- The arguments of a function that changes nothing, with everything in them. -/
def settledArguments (name : String) (a : Datum.Arguments) : Evaluation Datum.Arguments := do
  let plain ← (← e.prepare name a.plain).mapM fun d => settled d
  let labelled ← a.labelled.mapM fun (s, d) => do return (s, ← settled d)
  return { plain, labelled }

/-- The value of a function that may change the data. -/
def callOther (d o : Datum) (name : String) (a : Datum.Arguments) : Evaluation Datum := do
  match ← e.callChange? d o name a with
  | some r => return r
  | none => stored (← (← settled o).callMethod name (← e.settledArguments name a))

/-- Pack data into a buffer from an offset on. -/
def packInto (l : Datum.Layout) (args : List Datum) : Evaluation Datum := do
  match args with
  | [] => throw (.misuse (.packing (.packTarget "buffer")))
  | [_] => throw (.misuse (.packing (.packTarget "offset")))
  | d :: offset :: ds =>
    if ds.length ≠ l.dataCount then
      throw (.misuse (.packing (.packIntoCount l.dataCount ds.length)))
    match d, ← opened d with
    | .shared a, .buffer false b =>
      let offset ← Datum.wholeOf (← opened offset)
      write a (.buffer false (← l.packInto b offset (← ds.mapM fun x => settled x)))
      return .absent
    | _, o => throw (.misuse (.packing (.notWritable o.kind)))

/-- The value of a function that asks data for a part, or gives or takes one, if that is what it
does. -/
def callPartMethod? (d : Datum) (name : String) (args : List Datum) :
    Evaluation (Option Datum) := do
  match name, args with
  | "__getattribute__", [s] => return some (← e.partOf d (← partName s))
  | "__setattr__", [s, p] =>
    setOwnPart d (← partName s) p
    return some .absent
  | "__delattr__", [s] =>
    dropPart d (← partName s)
    return some .absent
  | "__dir__", [] => return some (← allocated (.list ((← partNames d).map .text)))
  | _, _ => return none

/-- The value of a function of data that are no stream. -/
def callDataMethod (d o : Datum) (name : String) (a : Datum.Arguments) : Evaluation Datum := do
  match o, name, d with
  | _, "__call__", d => e.call d a
  | .text s, "format", _ => e.filledWith s a
  | .text s, "format_map", _ => do
    Datum.checkArguments o name a
    e.filledFrom s (a.plain.headD .absent)
  | .thing "_struct.Struct" _ parts, "pack_into", _ => do
    packInto (← Datum.Layout.ofDatum ((parts.lookup "format").getD .absent)) a.plain
  | _, "__iter__", d => e.iterator d
  | .thing "type" _ _, "_make", t => e.callMake t a
  | .thing "type" _ _, "mro", t => allocated (.list t.ancestors)
  | .type _, "mro", t => allocated (.list t.ancestors)
  | .type base, "__new__", _ =>
    match a.plain with
    | t :: rest =>
      if base = "tuple" && t.isEntryType then
        let items ← (rest.head?.map e.items).getD (pure [])
        stored (.entry t items [])
      else e.call t { a with plain := rest }
    | [] => throw (.misuse (.unboundNew o.typeName))
  | .thing "type" _ _, "__new__", _ =>
    match a.plain with
    | t :: rest => e.call t { a with plain := rest }
    | [] => throw (.misuse (.unboundNew o.typeName))
  | .entry t items _, name, _ =>
    if Datum.entryMethods.contains name then stored (← Datum.callEntryMethod t items name a)
    else stored (← (← settled o).callMethod name (← e.settledArguments name a))
  | .list items, "sort", .shared address => e.sortList address items a
  | .record _ _, name, d =>
    match ["keys", "values", "items"].contains name, Facet.ofKind? ("dict_" ++ name) with
    | true, some facet =>
      Datum.checkArguments o name a
      return facet.datum d
    | _, _ => e.callOther d o name a
  | _, name, d => e.callOther d o name a

/-- The value of a function of data. -/
def callMethod (d : Datum) (name : String) (a : Datum.Arguments) : Evaluation Datum := do
  if let some r ← e.callPartMethod? d name a.plain then return r
  match d with
  | .shared address =>
    match (← get).object address with
    | .stream kind _ => e.callStreamMethod d address kind name a.plain
    | _ => e.callDataMethod d (← opened d) name a
  | d => e.callDataMethod d (← opened d) name a

/-- The value of a function of a type with its owner as the first argument. Operations are told
apart from other functions. -/
def callUnbound (isOperation : Bool) (type name : String) (a : Datum.Arguments) :
    Evaluation Datum := do
  match a.plain with
  | d :: rest =>
    let o ← opened d
    if o.typeOf.isSubtype (.type type) then e.callMethod d name { a with plain := rest }
    else if isOperation then throw (.misuse (.foreignOperand type name o.kind))
    else throw (.misuse (.foreignOwner type name o.kind))
  | [] =>
    throw (.misuse (if isOperation then .unboundOperation type name else .unboundMethod type name))

end Nsis.Evaluator
