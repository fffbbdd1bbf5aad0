import Nsis.Datum.Arity
import Nsis.Datum.Hash

/-!
# Memory of formulas

Formulas can make data that change later: lists, sets, records, groups whose items are made when
they are asked for, and variables. They are kept in a memory by their addresses, so that a change is
seen wherever the data stand. What is kept at an address has other such data by their addresses
again.

## Main definitions

* `Nsis.Scope` — the variables that a formula sees.
* `Nsis.Stream` — groups whose items come one after the other.
* `Nsis.Memory` — what formulas leave behind.
* `Nsis.Evaluation` — computations with a memory.
* `Nsis.Memory.opened`, `Nsis.Memory.settled` — data with what stands at their addresses.
* `Nsis.Evaluation.stored` — data with everything that can change at an address.
-/

namespace Nsis

/-- Names with their values. -/
abbrev Names := List (String × Datum)

/-- The variables that a formula sees, by their addresses. -/
structure Scope where
  /-- Those of the functions and gatherings that it is in, the innermost first. -/
  frames : List Nat := []
  /-- Those of the function that it is in. -/
  home : Option Nat := none
  /-- Those that it sees if it is in no function or gathering. -/
  own : Option Nat := none
  /-- The record of the names that are known everywhere. -/
  world : Nat := 0
  /-- What comes before the title of a function that is defined here. -/
  place : String := ""

/-- Items that are made as they are asked for, for each way to go through clauses. -/
structure Gathering where
  item : Formula
  scope : Scope
  /-- The groups that are gone through, the innermost first, with what gets their items and the
  clauses behind. -/
  pending : List (Datum × Pattern × List Formula)

/-- What of a record is gone through. -/
inductive Facet where
  | keys
  | values
  | entries
  deriving DecidableEq, Repr

/-- Groups whose items come one after the other. -/
inductive Stream where
  /-- Items that are there already. -/
  | items (rest : List Datum)
  /-- The items of a group at an address from a position on. They are the given ones unless the
  memory has changed since it was seen. -/
  | indexed (source position : Nat) (rest : List Datum) (seen : Nat)
  /-- The items of a set, or a part of the entries of a record, which must not change in size. -/
  | keyed (facet : Facet) (source position size : Nat) (rest : List Datum) (seen : Nat)
  /-- The items of a list from a position on towards the start. -/
  | backward (source position : Nat)
  /-- Numbers in steps. -/
  | numbers (next step : Int) (count : Nat)
  | gathering (g : Gathering)
  /-- What a function makes of the items of other streams. -/
  | mapped (f : Datum) (sources : List Datum)
  /-- The items for which a function holds. -/
  | filtered (f source : Datum)
  /-- The items of other streams side by side, which may have to be equally many. -/
  | zipped (isStrict : Bool) (sources : List Datum)
  /-- Items with their numbers. -/
  | numbered (next : Int) (source : Datum)
  /-- What a function gives again and again, up to a last value or to where it has none. -/
  | repeated (f : Datum) (last : Option Datum)

/-- What is kept at an address. -/
inductive Object where
  | data (d : Datum)
  | stream (kind : String) (s : Stream)
  /-- Variables, some of which may have no value yet. -/
  | frame (names : List (String × Option Datum))
  deriving Inhabited

/-- What formulas leave behind: data at addresses, the text they print, and what is pointed out
about them. -/
structure Memory where
  objects : Array Object := #[]
  /-- How often data have changed. -/
  changes : Nat := 0
  /-- Whether a type has changed. Types that have are kept at the addresses in them. -/
  changedTypes : Bool := false
  printed : String := ""
  notices : String := ""

/-- Computations with a memory, which a fault keeps. -/
abbrev Evaluation := ExceptT Fault (StateM Memory)

namespace Facet

/-- The facet that the data of a kind are. -/
def ofKind? (kind : String) : Option Facet :=
  match kind with
  | "dict_keys" => some keys
  | "dict_values" => some values
  | "dict_items" => some entries
  | _ => none

/-- The kind of data that a facet is. -/
def kind : Facet → String
  | keys => "dict_keys"
  | values => "dict_values"
  | entries => "dict_items"

/-- What the iterators of a facet are called. -/
def iteratorKind : Facet → String
  | keys => "dict_keyiterator"
  | values => "dict_valueiterator"
  | entries => "dict_itemiterator"

/-- The items of a facet of a group. -/
def items (facet : Facet) (d : Datum) : List Datum :=
  match facet, d with
  | keys, .record ks _ => ks
  | values, .record _ vs => vs
  | entries, .record ks vs => List.zipWith (fun k v => .tuple [k, v]) ks vs
  | _, .set items | _, .list items => items
  | _, .buffer _ b => b.map fun c => .number c.toNat
  | _, _ => []

/-- A facet of the record at an address. -/
def datum (facet : Facet) (owner : Datum) : Datum :=
  .thing facet.kind "" [("record", owner)]

end Facet

namespace Memory

variable (m : Memory)

/-- What is kept at an address. -/
def object (a : Nat) : Object :=
  m.objects.getD a (.data .absent)

/-- The data that are kept at an address. Streams keep their items to themselves. -/
def content (a : Nat) : Datum :=
  match m.object a with
  | .data d => d
  | .stream kind _ => .series kind []
  | .frame _ => .absent

/-- The record of which data are a facet. -/
def facet? : Datum → Option (Facet × Nat)
  | .thing kind _ [(_, .shared a)] => (Facet.ofKind? kind).map (·, a)
  | _ => none

/-- How many types one above the other are looked at. -/
def typeRoom : Nat := 64

/-- A type as it is now, with the types that it belongs to. -/
def currentType : (fuel : Nat) → Datum → Datum
  | 0, t => t
  | fuel + 1, t =>
    let withBases := fun (parts : Names) => parts.map fun
      | ("__bases__", .tuple bases) => ("__bases__", Datum.tuple (bases.map (currentType fuel)))
      | part => part
    match t with
    | .thing "type" name parts =>
      match (Datum.address? parts).map m.content with
      | some (.thing "type" name parts) => .thing "type" name (withBases parts)
      | _ => .thing "type" name (withBases parts)
    | t => t

/-- Data with their type as it is now. -/
def withCurrentType (d : Datum) : Datum :=
  match d with
  | .thing "type" _ _ => m.currentType typeRoom d
  | .entry t items own => .entry (m.currentType typeRoom t) items own
  | .thing kind name parts =>
    .thing kind name (parts.map fun
      | ("__class__", t) => ("__class__", m.currentType typeRoom t)
      | part => part)
  | d => d

/-- Data with what stands at their address. What stands at the addresses in it is left there. -/
def opened (d : Datum) : Datum :=
  let o := match d with
    | .shared a => m.content a
    | d =>
      match facet? d with
      | some (facet, a) => .series facet.kind (facet.items (m.content a))
      | none => d
  if m.changedTypes then m.withCurrentType o else o

/-- How data that are inside themselves are written. -/
def cycle : Datum → Datum
  | .record _ _ => .thing "dict" "\x7b...\x7d" []
  | .list _ => .thing "list" "[...]" []
  | d => d

/-- Data at an address that are told from others by it. They remember where they are kept. -/
def identified (a : Nat) : Datum → Datum
  | .series kind _ => .thing kind (Text.decimal a) [(Datum.addressPart, .shared a)]
  | .thing kind "" parts =>
    .thing kind (Text.decimal a) ((Datum.addressPart, .shared a) :: parts)
  | .function title _ _ _ _ _ _ =>
    .thing "function" (Text.decimal a) [
      (Datum.addressPart, .shared a), ("__qualname__", .text title)]
  | .entry t items own => .entry t items ((Datum.addressPart, .shared a) :: own)
  | d => d

/-- Parts with something done to each, except to what tells their address. -/
def mapParts (f : Datum → Datum) (parts : Names) : Names :=
  parts.map fun (s, p) => if s = Datum.addressPart then (s, p) else (s, f p)

/-- Data with everything that stands at addresses in them, inside data at some others. -/
def settle : (fuel : Nat) → (within : List Nat) → Datum → Datum
  | 0, _, d => d
  | fuel + 1, within, d =>
    let inner := settle fuel within
    match d with
    | .shared a =>
      if within.contains a then cycle (m.content a)
      else settle fuel (a :: within) (identified a (m.content a))
    | .list items => .list (items.map inner)
    | .tuple items => .tuple (items.map inner)
    | .set items => .set (items.map inner)
    | .fixedSet items => .fixedSet (items.map inner)
    | .record keys values => .record (keys.map inner) (values.map inner)
    | .entry t items own => .entry t (items.map inner) (mapParts inner own)
    | .slice start stop step => .slice (inner start) (inner stop) (inner step)
    | .thing "type" _ _ => d
    | .thing kind name parts =>
      match facet? d with
      | some (facet, a) => .series facet.kind ((facet.items (m.content a)).map inner)
      | none => .thing kind name (mapParts inner parts)
    | d => d

/-- How deep data are looked into. -/
def room : Nat := 4096

/-- Data with everything that stands at addresses in them. -/
def settled (d : Datum) : Datum :=
  m.settle room [] d

/-- Data as they stand among keys: tuples, which are equal if their items are, have no address. -/
def keyForm : (fuel : Nat) → Datum → Datum
  | 0, d => d
  | fuel + 1, d =>
    match d with
    | .shared a =>
      match m.content a with
      | .entry t items own => .entry t (items.map (keyForm fuel)) own
      | _ => d
    | .tuple items => .tuple (items.map (keyForm fuel))
    | .entry t items own => .entry t (items.map (keyForm fuel)) own
    | .fixedSet items => .fixedSet (items.map (keyForm fuel))
    | d => d

/-- Data as a key. What holds something that can change is refused. -/
def key (d : Datum) : Except Fault Datum :=
  (fun _ => m.keyForm room d) <$> (m.settled d).asKey

end Memory

namespace Evaluation

/-- Keep something at a new address. -/
def allocate (o : Object) : Evaluation Nat :=
  modifyGet fun m => (m.objects.size, { m with objects := m.objects.push o })

/-- Data that are kept at a new address. -/
def allocated (d : Datum) : Evaluation Datum :=
  Datum.shared <$> allocate (.data d)

/-- A stream that is kept at a new address. -/
def streaming (kind : String) (s : Stream) : Evaluation Datum :=
  Datum.shared <$> allocate (.stream kind s)

/-- Keep other data at an address. -/
def write (a : Nat) (d : Datum) : Evaluation Unit :=
  modify fun m =>
    { m with objects := m.objects.setIfInBounds a (.data d), changes := m.changes + 1 }

/-- Keep a type as it is now at the address in it. -/
def writeType (name : String) (parts : Names) : Evaluation Unit := do
  if let some a := Datum.address? parts then
    write a (.thing "type" name parts)
    modify fun m => { m with changedTypes := true }

/-- Keep what is left of a stream at its address. -/
def advance (a : Nat) (kind : String) (s : Stream) : Evaluation Unit :=
  modify fun m => { m with objects := m.objects.setIfInBounds a (.stream kind s) }

/-- Data with what stands at their address. -/
def opened (d : Datum) : Evaluation Datum :=
  return (← get).opened d

/-- Data with everything that stands at addresses in them. -/
def settled (d : Datum) : Evaluation Datum :=
  return (← get).settled d

/-- Data as a key. -/
def keyed (d : Datum) : Evaluation Datum := do
  (← get).key d

/-- Whether data that are no group or facet are told from others by their address alone. -/
def hasIdentity : Datum → Bool
  | .thing kind "" _ => (Facet.ofKind? kind).isNone
  | .function _ _ _ _ _ _ _ => true
  | _ => false

/-- Data with everything in them that can change at an address of its own. -/
def store : (fuel : Nat) → Datum → Evaluation Datum
  | 0, d => return d
  | fuel + 1, d => do
    let parts := fun (own : Names) =>
      own.mapM fun (s, p) => do return (s, ← store fuel p)
    match d with
    | .list items => allocated (.list (← items.mapM (store fuel)))
    | .set _ | .buffer false _ => allocated d
    | .record keys values => allocated (.record keys (← values.mapM (store fuel)))
    | .tuple items => return .tuple (← items.mapM (store fuel))
    | .entry t items own =>
      match Datum.address? own with
      | some a => return .shared a
      | none =>
        let items ← items.mapM (store fuel)
        allocated (.entry t items (← parts own))
    | .series kind items => streaming kind (.items (← items.mapM (store fuel)))
    | .thing kind name own =>
      if (Facet.ofKind? kind).isSome then return d
      if kind ≠ "type" then
        if let some a := Datum.address? own then return .shared a
      let own ← parts own
      if name.isEmpty then allocated (.thing kind name own) else return .thing kind name own
    | d => if hasIdentity d then allocated d else return d

/-- Data with everything in them that can change at an address of its own. -/
def stored (d : Datum) : Evaluation Datum :=
  store Memory.room d

/-! ### Variables -/

/-- Keep variables at a new address. -/
def frame (names : List (String × Option Datum)) : Evaluation Nat :=
  allocate (.frame names)

/-- The variables at an address. -/
def variablesAt (a : Nat) : Evaluation (List (String × Option Datum)) := do
  match (← get).object a with
  | .frame names => return names
  | _ => return []

/-- Give a value to variables at an address. -/
def assign (a : Nat) (values : Names) : Evaluation Unit :=
  modify fun m => { m with objects := m.objects.modify a fun
    | .frame names => .frame (values.foldl (fun names (s, d) =>
        names.map fun (t, e) => if s = t then (t, some d) else (t, e)) names)
    | o => o }

/-- The value of a key that is a text, among keys with their values. -/
def namedEntry? (s : String) : List Datum → List Datum → Option Datum
  | .text t :: keys, d :: values => if s = t then some d else namedEntry? s keys values
  | _ :: keys, _ :: values => namedEntry? s keys values
  | _, _ => none

/-- The value of a key in the record at an address. -/
def entryAt? (a : Nat) (key : String) : Evaluation (Option Datum) := do
  match (← get).content a with
  | .record keys values => return namedEntry? key keys values
  | _ => return none

/-- Give a value to a key in the record at an address. -/
def putEntry (a : Nat) (key : String) (d : Datum) : Evaluation Unit := do
  if let .record keys values := (← get).content a then
    let (keys, values) := Datum.insert keys values (.text key) d
    write a (.record keys values)

end Evaluation

namespace Scope

/-- The name of the record of the names that every formula of a world knows. -/
def commonNames : String := "__builtins__"

/-- The value that a variable of one of some frames has. One that has none yet is refused; `isOwn`
if the first frame is the one that is asked. -/
def held? (isOwn : Bool) (s : String) : List Nat → Evaluation (Option Datum)
  | [] => return none
  | a :: frames => do
    match (← Evaluation.variablesAt a).lookup s with
    | some (some d) => return some d
    | some none => throw (.misuse (.unset isOwn s))
    | none => held? false s frames

/-- The value of a name that formulas give. -/
def value? (scope : Scope) (s : String) : Evaluation (Option Datum) := do
  match ← held? true s scope.frames with
  | some d => return some d
  | none =>
    let own ← match scope.frames, scope.own with
      | [], some a => Evaluation.entryAt? a s
      | _, _ => pure none
    match own with
    | some d => return some d
    | none => Evaluation.entryAt? scope.world s

/-- The value of a name that every formula of a world knows, which the world keeps in a record of
its own. -/
def common? (scope : Scope) (s : String) : Evaluation (Option Datum) := do
  match ← Evaluation.entryAt? scope.world commonNames with
  | some (.shared a) => Evaluation.entryAt? a s
  | some (.thing _ _ parts) => return parts.lookup s
  | _ => return none

/-- Give a name to a value. Functions keep the names that are given in them. -/
def give (scope : Scope) (s : String) (d : Datum) : Evaluation Unit :=
  match scope.home, scope.frames, scope.own with
  | some a, _, _ => Evaluation.assign a [(s, d)]
  | none, [], some a => Evaluation.putEntry a s d
  | none, _, _ => Evaluation.putEntry scope.world s d

end Scope

end Nsis
