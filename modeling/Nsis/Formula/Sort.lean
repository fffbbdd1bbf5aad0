import Nsis.Formula.Operator

/-!
# Order of items

Items are put in order by keys, which a function may give. Items whose keys are equal keep their
order. A run that is in order at the start is taken as it is, and each further item is placed by
halving.

## Main definitions

* `Nsis.Evaluator.sorted` — items in order.
* `Nsis.Evaluator.extreme` — the smallest or the largest item.
-/

namespace Nsis.Evaluator

open Evaluation

variable (e : Evaluator)

/-- An item with its key. -/
abbrev Keyed := Datum × Datum

/-- Whether an item comes before another one. -/
def isBelow (x y : Keyed) : Evaluation Bool :=
  e.comesBefore .less x.1 y.1

/-- The items at the start each of which comes before the one in front of it, or none of which does,
behind a first one, in reverse; and the rest. -/
def run (descends : Bool) : (done : List Keyed) → List Keyed → Evaluation (List Keyed × List Keyed)
  | x :: done, y :: rest => do
    if (← e.isBelow y x) = descends then run descends (y :: x :: done) rest
    else return (x :: done, y :: rest)
  | done, rest => return (done, rest)

/-- Where an item is placed between two positions, behind those that do not come after it. -/
def placeIn (items : Array Keyed) (x : Keyed) : (fuel low high : Nat) → Evaluation Nat
  | 0, low, _ => return low
  | fuel + 1, low, high => do
    if high ≤ low then return low
    let middle := (low + high) / 2
    match items[middle]? with
    | none => return low
    | some y =>
      if ← e.isBelow x y then placeIn items x fuel low middle
      else placeIn items x fuel (middle + 1) high

/-- Items in order with further ones. -/
def placeAll (items : Array Keyed) : List Keyed → Evaluation (Array Keyed)
  | [] => return items
  | x :: rest => do
    let i ← e.placeIn items x (items.size + 1) 0 items.size
    placeAll (items.insertIdxIfInBounds i x) rest

/-- Two lists of items in order as a single one. -/
def merge : (fuel : Nat) → (done xs ys : List Keyed) → Evaluation (List Keyed)
  | 0, done, xs, ys => return done.reverse ++ xs ++ ys
  | _, done, [], ys => return done.reverse ++ ys
  | _, done, xs, [] => return done.reverse ++ xs
  | fuel + 1, done, x :: xs, y :: ys => do
    if ← e.isBelow y x then merge fuel (y :: done) (x :: xs) ys
    else merge fuel (x :: done) xs (y :: ys)

/-- How many items are put in order at once. -/
def sortRoom : Nat := 64

/-- Few items in order. -/
def sortFew (items : List Keyed) : Evaluation (List Keyed) := do
  match items with
  | x :: y :: rest =>
    let descends ← e.isBelow y x
    let (done, rest) ← e.run descends [y, x] rest
    let done := if descends then done else done.reverse
    return (← e.placeAll done.toArray rest).toList
  | items => return items

/-- Items in order. -/
def sortPairs : (fuel : Nat) → List Keyed → Evaluation (List Keyed)
  | 0, items => e.sortFew items
  | fuel + 1, items => do
    let n := items.length
    if n ≤ sortRoom then return ← e.sortFew items
    let low ← sortPairs fuel (items.take (n / 2))
    let high ← sortPairs fuel (items.drop (n / 2))
    e.merge (n + 1) [] low high

/-- The key that a function gives for an item. -/
def keyOf (key d : Datum) : Evaluation Datum :=
  match key with
  | .absent => return d
  | f => e.call f { plain := [d] }

/-- Items in order, by the keys that a function gives, or in the reverse order. -/
def sorted (items : List Datum) (key : Datum) (isReversed : Bool) : Evaluation (List Datum) := do
  let pairs ← items.mapM fun d => do return (← e.keyOf key d, d)
  let found ← e.sortPairs 64 (if isReversed then pairs.reverse else pairs)
  let found := found.map (·.2)
  return if isReversed then found.reverse else found

/-- The arguments of a function that puts items in order: the key and whether it is reversed. -/
def sortingOf (a : Datum.Arguments) : Evaluation (Datum × Bool) := do
  Datum.onlyLabels "sort" ["key", "reverse"] a
  let isReversed ← Datum.wholeOf (← opened ((a.labelled.lookup "reverse").getD (.truth false)))
  return ((a.labelled.lookup "key").getD .absent, isReversed ≠ 0)

/-- The item whose key is in a relation to those of all others before it, with its key. -/
def extremeFrom (r : Relation) (key : Datum) : Keyed → List Datum → Evaluation Datum
  | best, [] => return best.2
  | best, d :: ds => do
    let k ← e.keyOf key d
    if ← e.comesBefore r k best.1 then extremeFrom r key (k, d) ds
    else extremeFrom r key best ds

/-- The smallest or largest of the arguments, or of the items of a single one. -/
def extreme (name : String) (r : Relation) (a : Datum.Arguments) : Evaluation Datum := do
  if a.plain.isEmpty then throw (Datum.countFault name (.atLeast 1 0))
  Datum.onlyLabels name ["key", "default"] a
  let key := (a.labelled.lookup "key").getD .absent
  let usual := a.labelled.lookup "default"
  if 1 < a.plain.length && usual.isSome then throw (.misuse (.uselessDefault name))
  let items ← match a.plain with
    | [d] => e.items d
    | ds => pure ds
  match items, usual with
  | d :: ds, _ => e.extremeFrom r key (← e.keyOf key d, d) ds
  | [], some d => return d
  | [], none => throw (.misuse (.emptyGroup name))

end Nsis.Evaluator
