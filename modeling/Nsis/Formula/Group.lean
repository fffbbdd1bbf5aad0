import Nsis.Formula.Class
import Nsis.Formula.Sort

/-!
# Functions of groups

The functions and types that go through the items of groups, make groups of them, or give streams.

## Main definitions

* `Nsis.Evaluator.look` — how the memory is looked at.
* `Nsis.Evaluator.callGroupType?` — what the types of groups make of their arguments.
* `Nsis.Evaluator.callGroupFunction?` — the values of functions of groups.
-/

namespace Nsis.Evaluator

open Evaluation

variable (e : Evaluator)

/-- How the memory is looked at. -/
def look : Evaluation Datum.Look := do
  let m ← get
  return { opened := m.opened, settled := m.settled, key := m.key }

/-! ### Groups -/

/-- The items of at most one argument of a type. -/
def optionalItems (type : String) (a : Datum.Arguments) : Evaluation (List Datum) := do
  match ← Datum.optional type a with
  | some d => e.items d
  | none => return []

/-- The items of a set from at most one argument. Another set is taken over at once. -/
def setItems (type : String) (a : Datum.Arguments) : Evaluation (List Datum) := do
  let items ← e.optionalItems type a
  let items ← items.mapM keyed
  match ← opened (a.plain.headD .absent) with
  | .set _ | .fixedSet _ => return Datum.relaid items
  | _ => return Datum.laidOut items

/-- A record from another one or from pairs, and from named arguments. -/
def newRecord (a : Datum.Arguments) : Evaluation Datum := do
  if 1 < a.plain.length then throw (Datum.countFault "dict" (.atMost 1 a.plain.length))
  let args ← a.plain.mapM fun d => do
    match ← opened d with
    | o@(.record _ _) => return o
    | _ => return .tuple (← e.items d)
  let entries ← Datum.newEntries (← look) args a.labelled
  let (keys, values) := Datum.merged [] [] entries
  allocated (.record keys values)

/-! ### Streams -/

/-- A stream of the items of a group in reverse. -/
def reversed (d : Datum) : Evaluation Datum := do
  match ← e.callOwn? d "__reversed__" [] with
  | some r => return r
  | none =>
    let o ← opened d
    match d, o with
    | .shared a, .list items => streaming "list_reverseiterator" (.backward a items.length)
    | _, .range start stop step =>
      let n := Datum.rangeSize start stop step
      streaming (iteratorKind o) (.numbers (start + (n - 1) * step) (-step) n)
    | _, .record keys _ => streaming "dict_reversekeyiterator" (.items keys.reverse)
    | _, .series kind items =>
      match Facet.ofKind? kind with
      | some facet =>
        let kind := "dict_reverse" ++ (facet.iteratorKind.drop 5).toString
        streaming kind (.items items.reverse)
      | none => throw (.misuse (.notReversible o.kind))
    | _, .text _ | _, .bytes _ | _, .buffer _ _ | _, .tuple _ | _, .entry _ _ _ => do
      streaming "reversed" (.items (← o.members).reverse)
    | _, o => throw (.misuse (.notReversible o.kind))

/-- What the types of groups and streams make of their arguments. -/
def callGroupType? (name : String) (a : Datum.Arguments) : Option (Evaluation Datum) :=
  match name with
  | "list" => some do allocated (.list (← e.optionalItems name a))
  | "tuple" => some do return .tuple (← e.optionalItems name a)
  | "set" => some do allocated (.set (← e.setItems name a))
  | "frozenset" => some do return .fixedSet (← e.setItems name a)
  | "dict" => some (e.newRecord a)
  | "enumerate" => some do
    match a.plain with
    | d :: rest =>
      if 1 < rest.length + a.labelled.length then
        throw (Datum.countFault name (.takesAtMost 2 (1 + rest.length + a.labelled.length)))
      Datum.onlyLabels name ["start"] a
      let start := rest.head?.orElse fun _ => a.labelled.lookup "start"
      let first ← match start with
        | some n => liftM (Datum.wholeOf (← opened n))
        | none => pure 0
      streaming name (.numbered first (← e.iterator d))
    | [] =>
      Datum.onlyLabels name ["iterable", "start"] a
      match a.labelled.lookup "iterable" with
      | some d =>
        let first ← match a.labelled.lookup "start" with
          | some n => liftM (Datum.wholeOf (← opened n))
          | none => pure 0
        streaming name (.numbered first (← e.iterator d))
      | none => throw (.misuse (.missingLabel name "iterable"))
  | "zip" => some do
    Datum.onlyLabels name ["strict"] a
    let isStrict ← e.holds ((a.labelled.lookup "strict").getD (.truth false))
    streaming name (.zipped isStrict (← a.plain.mapM e.iterator))
  | "map" => some do
    match ← Datum.unlabelled name a with
    | f :: d :: rest => streaming name (.mapped f (← (d :: rest).mapM e.iterator))
    | _ => throw (.misuse .fewSources)
  | "filter" => some do
    match ← Datum.unlabelled name a with
    | [f, d] => streaming name (.filtered f (← e.iterator d))
    | ds => throw (Datum.countFault name (.exactly 2 ds.length))
  | "reversed" => some do
    match ← Datum.unlabelled name a with
    | [d] => e.reversed d
    | ds => throw (Datum.countFault name (.exactly 1 ds.length))
  | _ => none

/-! ### Functions -/

/-- The sum of the items of a group behind a first one. -/
def total (first group : Datum) : Evaluation Datum := do
  match ← opened first with
  | .text _ => throw (.misuse (.sumOfTexts .text))
  | .bytes _ => throw (.misuse (.sumOfTexts .bytes))
  | .buffer false _ => throw (.misuse (.sumOfTexts (.other "bytearray")))
  | _ => e.walk group first fun sum d => do return .yield (← e.combined .plus sum d)

/-- The next item of an iterator, or something else if there is none. -/
def nextOf (d : Datum) (usual : Option Datum) : Evaluation Datum := do
  let found ← match ← e.callOwn? d "__next__" [] with
    | some r => pure (some r)
    | none =>
      match d with
      | .shared a =>
        match (← get).object a with
        | .stream _ _ => e.next a
        | _ => throw (.misuse (.notIterator (← opened d).kind))
      | d => throw (.misuse (.notIterator (← opened d).kind))
  match found, usual with
  | some r, _ => return r
  | none, some r => return r
  | none, none => throw (.misuse .exhausted)

/-- The values of functions of groups. -/
def callGroupFunction? (name : String) (a : Datum.Arguments) : Option (Evaluation Datum) :=
  match name with
  | "len" => some do return .number (← e.sizeOf (← Datum.single name a) : Nat)
  | "any" => some do
    let d ← Datum.single name a
    return .truth (← e.walk d false fun _ x => do
      return if ← e.holds x then .done true else .yield false)
  | "all" => some do
    let d ← Datum.single name a
    return .truth (← e.walk d true fun _ x => do
      return if ← e.holds x then .yield true else .done false)
  | "sum" => some do
    Datum.onlyNamed name ["iterable", "start"] 1 1 a
    let start := (a.plain[1]?.orElse fun _ => a.labelled.lookup "start").getD (.number 0)
    let group := a.plain.headD .absent
    let it ← e.iterator group
    e.total start it
  | "max" => some (e.extreme name .greater a)
  | "min" => some (e.extreme name .less a)
  | "sorted" => some do
    match a.plain with
    | [d] =>
      let items ← e.items d
      let (key, isReversed) ← sortingOf a
      allocated (.list (← e.sorted items key isReversed))
    | ds => throw (Datum.countFault "sorted" (.exactly 1 ds.length))
  | "iter" => some do
    match ← Datum.between name 1 2 (← Datum.unlabelled name a) with
    | [d] => e.iterator d
    | f :: last :: _ =>
      if !(← opened f).isCallable then throw (.misuse .notCallableSource)
      streaming "callable_iterator" (.repeated f (some last))
    | _ => return .absent
  | "next" => some do
    match ← Datum.between name 1 2 (← Datum.unlabelled name a) with
    | d :: rest => e.nextOf d rest.head?
    | [] => return .absent
  | _ => none

end Nsis.Evaluator
