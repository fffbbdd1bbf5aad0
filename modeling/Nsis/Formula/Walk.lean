import Nsis.Formula.Binding

/-!
# Going through groups

The items of a group are asked for one after the other. Those of a stream are made then, which may
call functions and change data; a group that changes on the way gives the items that it has when it
is asked.

## Main definitions

* `Nsis.Evaluator` — the values of formulas and calls.
* `Nsis.Evaluator.own?` — a function that the own type of data has for a purpose.
* `Nsis.Evaluator.iterator` — what gives the items of a group one after the other.
* `Nsis.Evaluator.walk` — the items of a group, as long as they are wanted.
* `Nsis.Evaluator.unpacked` — the names of a pattern with the items that they get.
* `Nsis.Evaluator.step` — the next item of a stream.
-/

namespace Nsis

/-- The value of formulas and calls that are inside others. -/
structure Evaluator where
  /-- The value of a formula among variables. -/
  value (scope : Scope) (f : Formula) : Evaluation Datum
  /-- The value of a call. -/
  call (f : Datum) (a : Datum.Arguments) : Evaluation Datum
  /-- The value of a function that depends on the place of its call. -/
  callAt (scope : Scope) (name : String) (a : Datum.Arguments) : Evaluation Datum
  /-- The next item of the stream at an address. -/
  next (address : Nat) : Evaluation (Option Datum)

namespace Evaluator

open Evaluation

variable (e : Evaluator)

/-! ### Types of one's own -/

/-- A part of a type as data of the type have it: a function gets them as its first argument. -/
def attachedTo (d p : Datum) : Evaluation Datum := do
  match ← opened p with
  | .function _ _ _ _ _ _ _ => return .attached p d
  | _ => return p

/-- A function that the own type of data has for a purpose. -/
def own? (d : Datum) (name : String) : Evaluation (Option Datum) := do
  match ← opened d with
  | o@(.thing _ "" _) =>
    match o.typeOf.classPart? name with
    | some p => some <$> attachedTo d p
    | none => return none
  | _ => return none

/-- The value of a function that the own type of data has for a purpose. -/
def callOwn? (d : Datum) (name : String) (args : List Datum) : Evaluation (Option Datum) := do
  match ← own? d name with
  | some f => some <$> e.call f { plain := args }
  | none => return none

/-- Whether data hold. -/
def holds (d : Datum) : Evaluation Bool := do
  match ← e.callOwn? d "__bool__" [] with
  | some b => return (← opened b).holds
  | none =>
    match ← e.callOwn? d "__len__" [] with
    | some n => return (← opened n).holds
    | none => return (← opened d).holds

/-! ### Iterators -/

/-- What the iterators of a group are called. -/
def iteratorKind : Datum → String
  | .text s => if s.toList.all fun c => c.toNat < 0x80 then "str_ascii_iterator" else "str_iterator"
  | .record _ _ => "dict_keyiterator"
  | .entry _ _ _ => "tuple_iterator"
  | .fixedSet _ => "set_iterator"
  | .buffer true _ => "memory_iterator"
  | .range start stop step =>
    if Signed.fits start && Signed.fits stop && Signed.fits step then "range_iterator"
    else "longrange_iterator"
  | d => d.kind.name ++ "_iterator"

/-- A stream of the items of the group at an address. -/
def sharedStream (a : Nat) (group : Datum) : Evaluation Datum := do
  let seen := (← get).changes
  let kind := iteratorKind group
  match group with
  | .list items => streaming kind (.indexed a 0 items seen)
  | .buffer _ b => streaming kind (.indexed a 0 (b.map Datum.ofByte) seen)
  | .set items => streaming kind (.keyed .keys a 0 items.length items seen)
  | .record keys _ => streaming kind (.keyed .keys a 0 keys.length keys seen)
  | d => do streaming kind (.items (← d.members))

/-- What gives the items of a group one after the other. -/
def iterator (d : Datum) : Evaluation Datum := do
  match d with
  | .shared a =>
    match (← get).object a with
    | .stream _ _ => return d
    | .frame _ => throw (.notGroup d.kind)
    | .data group =>
      match ← e.callOwn? d "__iter__" [] with
      | none => sharedStream a group
      | some it =>
        match ← own? it "__next__" with
        | some f => streaming "iterator" (.repeated f none)
        | none =>
          match it with
          | .shared b =>
            if let .stream _ _ := (← get).object b then return it
            throw (.misuse (.notIterators (← opened it).kind))
          | it => throw (.misuse (.notIterators it.kind))
  | .range start stop step =>
    streaming (iteratorKind d) (.numbers start step (Datum.rangeSize start stop step))
  | d =>
    match Memory.facet? d with
    | some (facet, a) =>
      let m ← get
      let items := facet.items (m.content a)
      streaming facet.iteratorKind (.keyed facet a 0 items.length items m.changes)
    | none => do streaming (iteratorKind d) (.items (← d.members))

/-! ### Walks -/

/-- How many items are asked for at most. -/
def walkRoom : Nat := 0x400000

/-- Go through the items of the stream at an address as long as they are wanted. -/
def walkStream {β : Type} (a : Nat) (f : β → Datum → Evaluation (ForInStep β)) :
    (fuel : Nat) → β → Evaluation β
  | 0, _ => throw .noMemory
  | fuel + 1, b => do
    match ← e.next a with
    | none => return b
    | some d =>
      match ← f b d with
      | .done b => return b
      | .yield b => walkStream a f fuel b

/-- Go through the items of a group as long as they are wanted. -/
def walk {β : Type} (d : Datum) (b : β) (f : β → Datum → Evaluation (ForInStep β)) :
    Evaluation β := do
  let .shared a ← e.iterator d | return b
  e.walkStream a f walkRoom b

/-- Whether the items of a group have to be asked for one after the other. -/
def isLazy (d : Datum) : Evaluation Bool := do
  match d with
  | .shared a =>
    match (← get).object a with
    | .stream _ _ => return true
    | .data (.thing _ _ _) => return true
    | _ => return false
  | _ => return false

/-- At most a number of items of a group. -/
def firstItems (count : Nat) (d : Datum) : Evaluation (List Datum) := do
  if !(← isLazy d) then return ← (← opened d).members
  if count = 0 then return []
  let (found, _) ← e.walk d (([] : List Datum), 0) fun (ds, n) d =>
    return if n + 1 < count then .yield (d :: ds, n + 1) else .done (d :: ds, n + 1)
  return found.reverse

/-- The items of a group. -/
def items (d : Datum) : Evaluation (List Datum) :=
  e.firstItems walkRoom d

/-! ### Patterns -/

mutual

/-- The names of a pattern with the items that they get. -/
def unpacked (d : Datum) : Pattern → Evaluation Names
  | .name s => return [(s, d)]
  | .rest p => unpacked d p
  | .several ps => do
    let wanted := if ps.any Pattern.isRest then walkRoom else ps.length + 1
    let items ← tryCatch (e.firstItems wanted d) fun
      | .notGroup k => throw (.misuse (.notUnpackable k))
      | cause => throw cause
    unpackedAll (← Pattern.shares ps items) ps

/-- The names of patterns with the items that they get, one for each pattern. -/
def unpackedAll : List Datum → List Pattern → Evaluation Names
  | d :: ds, p :: ps => do
    let d ← stored d
    return (← unpacked d p) ++ (← unpackedAll ds ps)
  | _, _ => return []

end

/-! ### Streams -/

/-- Items of the group at an address from a position on, if it has changed since it was seen. -/
def renewed (facet : Facet) (source position : Nat) (rest : List Datum) (seen : Nat) :
    Evaluation (List Datum × Nat) := do
  let m ← get
  if m.changes = seen then return (rest, seen)
  return ((facet.items (m.content source)).drop position, m.changes)

/-- Refuse a group that does not have the size that it had. -/
def checkSize (source size : Nat) : Evaluation Unit := do
  match (← get).content source with
  | .record keys _ => if keys.length ≠ size then throw (.misuse (.resized .record))
  | .set items => if items.length ≠ size then throw (.misuse (.resized .set))
  | _ => return

/-- The next items of streams side by side, or the number of the first stream that has none. -/
def nextOfAll : (index : Nat) → List Datum → Evaluation (Except Nat (List Datum))
  | _, [] => return .ok []
  | index, d :: ds => do
    let .shared a := d | return .error index
    match ← e.next a with
    | none => return .error index
    | some item =>
      match ← nextOfAll (index + 1) ds with
      | .ok items => return .ok (item :: items)
      | .error i => return .error i

/-- Refuse streams behind one that ended that have a further item. -/
def checkEnds : (index : Nat) → List Datum → Evaluation Unit
  | _, [] => return
  | index, d :: ds => do
    let .shared a := d | return
    if (← e.next a).isSome then throw (.misuse (.unequalSources true index))
    checkEnds (index + 1) ds

/-- Go on with clauses for the variables of a gathering, up to an item or to a group that is gone
through. -/
def enter (g : Gathering) : List Formula → Evaluation (Option Datum × Gathering)
  | [] => do return (some (← e.value g.scope g.item), g)
  | .each pattern source :: clauses => do
    let it ← e.iterator (← e.value g.scope source)
    return (none, { g with pending := (it, pattern, clauses) :: g.pending })
  | .provided condition :: clauses => do
    if ← e.holds (← e.value g.scope condition) then enter g clauses else return (none, g)
  | _ :: clauses => enter g clauses

/-- The next item of a gathering, and the gathering behind it. -/
def nextGathered : (fuel : Nat) → Gathering → Evaluation (Option Datum × Gathering)
  | 0, _ => throw .noMemory
  | fuel + 1, g => do
    match g.pending with
    | [] => return (none, g)
    | (it, pattern, clauses) :: pending =>
      let item ← match it with
        | .shared a => e.next a
        | _ => pure none
      match item with
      | none => nextGathered fuel { g with pending }
      | some d =>
        let names ← e.unpacked d pattern
        if let a :: _ := g.scope.frames then assign a names
        match ← e.enter g clauses with
        | (some d, g) => return (some d, g)
        | (none, g) => nextGathered fuel g

/-- The first item of a stream for which a function holds, or that holds itself. -/
def nextHolding (f : Datum) (source : Nat) : (fuel : Nat) → Evaluation (Option Datum)
  | 0 => throw .noMemory
  | fuel + 1 => do
    match ← e.next source with
    | none => return none
    | some d =>
      let answer ← match f with
        | .absent | .type "bool" => pure d
        | f => e.call f { plain := [d] }
      if ← e.holds answer then return some d else nextHolding f source fuel

/-- The next item of a stream at an address of a kind. A stream that has ended, or has failed, has
no more items. -/
def step (a : Nat) (kind : String) (s : Stream) : Evaluation (Option Datum) := do
  let go := advance a kind
  let stop : Evaluation (Option Datum) := do
    go (.items [])
    return none
  match s with
  | .items [] => return none
  | .items (d :: rest) =>
    go (.items rest)
    return some d
  | .indexed source position rest seen =>
    match ← renewed .keys source position rest seen with
    | (d :: rest, seen) =>
      go (.indexed source (position + 1) rest seen)
      return some d
    | ([], _) => stop
  | .keyed facet source position size rest seen =>
    checkSize source size
    match ← renewed facet source position rest seen with
    | (d :: rest, seen) =>
      go (.keyed facet source (position + 1) size rest seen)
      return some d
    | ([], _) => stop
  | .backward source position =>
    match position, (← get).content source with
    | position + 1, .list items =>
      go (.backward source position)
      match items[position]? with
      | some d => return some d
      | none => stop
    | _, _ => stop
  | .numbers n step (count + 1) =>
    go (.numbers (n + step) step count)
    return some (.number n)
  | .numbers _ _ 0 => stop
  | .gathering g =>
    go (.items [])
    match ← e.nextGathered walkRoom g with
    | (some d, g) =>
      go (.gathering g)
      return some d
    | (none, _) => return none
  | .mapped f sources =>
    match ← e.nextOfAll 0 sources with
    | .ok args => some <$> e.call f { plain := args }
    | .error _ => return none
  | .filtered f source =>
    match source with
    | .shared b => e.nextHolding f b walkRoom
    | _ => stop
  | .zipped isStrict sources =>
    if sources.isEmpty then return none
    match ← e.nextOfAll 0 sources with
    | .ok items => return some (.tuple items)
    | .error i =>
      if isStrict then
        if 0 < i then throw (.misuse (.unequalSources false i))
        e.checkEnds 1 (sources.drop 1)
      return none
  | .numbered n source =>
    let .shared b := source | stop
    match ← e.next b with
    | some d =>
      go (.numbered (n + 1) source)
      return some (.tuple [.number n, d])
    | none => return none
  | .repeated f last =>
    let d ← tryCatch (some <$> e.call f { plain := [] }) fun
      | .misuse .exhausted => return none
      | cause => throw cause
    match d, last with
    | some d, some last => if (← settled d).equals (← settled last) then stop else return some d
    | d, _ => return d

end Evaluator

end Nsis
