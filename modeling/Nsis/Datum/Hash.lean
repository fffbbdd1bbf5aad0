import Nsis.Bits
import Nsis.Datum.Order

/-!
# Numbers of keys

A key has a number, which is the same for equal keys: a whole number its remainder by a prime, a
fraction what the same rule gives it, and a tuple a mixture of the numbers of its items. A set keeps
its items in a table whose places their numbers choose, and that is the order in which it shows
them.

## Main definitions

* `Nsis.Datum.hashNumber` — the number of a key.
* `Nsis.Datum.laidOut` — different items in the order of a set.
* `Nsis.Datum.relaid`, `Nsis.Datum.unitedItems` — the items of a set in another one.
-/

namespace Nsis.Datum

/-- The prime by which numbers are reduced, `2 ^ 61 - 1`. -/
def hashPrime : Nat := 0x1fffffffffffffff

/-- A number as it counts for keys: never minus one. -/
def asHash (n : Int) : Int :=
  if n = -1 then -2 else n

/-- The number of a whole number. -/
def wholeHash (n : Int) : Int :=
  asHash (Int.tmod n hashPrime)

/-- A power of two by the prime. -/
def hashPower (k : Int) : Nat :=
  Bits.weight (Int.fmod k 61).toNat

/-- The number of a fraction, which is that of the whole number that it may be. -/
def fractionHash (x : Float) : Int :=
  if x.isNaN then 0
  else if x.isInf then if x < 0 then -314159 else 314159
  else
    let b := Text.Binary.ofFloat x
    let size : Int := (b.mantissa * hashPower b.exponent % hashPrime : Nat)
    asHash (if x < 0 then -size else size)

/-- A word as a number with a sign. -/
def signedWord (w : UInt64) : Int :=
  w.toInt64.toInt

/-- A number with a sign as a word. -/
def wordOf (n : Int) : UInt64 :=
  (Int64.ofInt n).toUInt64

/-- A word turned by 31 bits. -/
def turned (w : UInt64) : UInt64 :=
  (w <<< (31 : UInt64)) ||| (w >>> (33 : UInt64))

/-- The number of a tuple from those of its items. -/
def mixed (hashes : List Int) : Int :=
  let step := fun (acc : UInt64) (h : Int) =>
    turned (acc + wordOf h * 14029467366897019727) * 11400714785074694791
  let seed : UInt64 := 2870177450012600261
  let acc := hashes.foldl step seed
  let acc := acc + (UInt64.ofNat hashes.length ^^^ (seed ^^^ (3527539 : UInt64)))
  if acc = 0xffffffffffffffff then 1546275796 else signedWord acc

/-- The bits of a number spread over a word. -/
def shuffled (h : Int) : UInt64 :=
  let w := wordOf h
  ((w ^^^ (89869747 : UInt64)) ^^^ (w <<< (16 : UInt64))) * 3644798167

/-- The number of a fixed set from those of its items, whatever their order. -/
def combinedHash (hashes : List Int) : Int :=
  let w := hashes.foldl (fun w h => w ^^^ shuffled h) 0
  let w := w ^^^ ((UInt64.ofNat hashes.length + 1) * 1927868237)
  let w := w ^^^ (w >>> (11 : UInt64)) ^^^ (w >>> (25 : UInt64))
  let w := w * 69069 + 907133923
  if w = 0xffffffffffffffff then 590923713 else signedWord w

mutual

/-- The number of a key. Texts and other things have some number that only serves to tell them
apart. -/
def hashNumber : Datum → Int
  | truth b => if b then 1 else 0
  | number n => wholeHash n
  | fraction x => fractionHash x
  | complex x y =>
    asHash (signedWord (wordOf (fractionHash x) + 1000003 * wordOf (fractionHash y)))
  | text s => signedWord (hash s)
  | bytes b => signedWord (hash (b.map UInt8.toNat))
  | tuple items | entry _ items _ => mixed (hashNumbers items)
  | fixedSet items => combinedHash (hashNumbers items)
  | builtin s | type s => signedWord (hash s)
  | thing _ s _ => signedWord (hash s)
  | shared a => (a : Int)
  | _ => 0

/-- The numbers of keys. -/
def hashNumbers : List Datum → List Int
  | [] => []
  | d :: ds => hashNumber d :: hashNumbers ds

end

mutual

/-- Whether the number of a key does not change from one run to the next. -/
def isSteady : Datum → Bool
  | truth _ | number _ | fraction _ | complex _ _ => true
  | tuple items | entry _ items _ => areSteady items
  | _ => false

/-- Whether no number of some keys changes from one run to the next. -/
def areSteady : List Datum → Bool
  | [] => true
  | d :: ds => isSteady d && areSteady ds

end

/-! ### Tables -/

/-- The places of a table. The number of places is a power of two. -/
abbrev Table := Array (Option Datum)

namespace Table

/-- How many places next to the first one are tried before another one is chosen. -/
def neighbours : Nat := 9

/-- The first free place for an item or the place of an equal one, among those that its number
chooses one after the other. -/
def place (t : Table) (d : Datum) : (fuel : Nat) → (start : Nat) → (perturb : Nat) → Nat
  | 0, start, _ => start
  | fuel + 1, start, perturb =>
    let mask := t.size - 1
    let n := if start + neighbours ≤ mask then neighbours + 1 else 1
    let fits := fun (i : Nat) => match t.getD i none with
      | none => true
      | some e => equals d e
    match ((List.range n).map (start + ·)).find? fits with
    | some i => i
    | none =>
      let perturb := perturb / 32
      place t d fuel (Nat.land (start * 5 + 1 + perturb) mask) perturb

/-- A table with an item more, and whether it is new. -/
def insert (t : Table) (d : Datum) : Table × Bool :=
  let h := (wordOf (hashNumber d)).toNat
  let i := place t d (t.size + 64) (Nat.land h (t.size - 1)) h
  match t.getD i none with
  | none => (t.setIfInBounds i (some d), true)
  | some _ => (t, false)

/-- An empty table. -/
def empty (size : Nat) : Table :=
  Array.replicate size none

/-- The smallest number of places above a number. -/
def sizeAbove (n : Nat) : Nat :=
  max 8 (Bits.weight (n.log2 + 1))

/-- The items in the order of their places. -/
def items (t : Table) : List Datum :=
  t.toList.filterMap id

/-- A table of a given size with items that are different. -/
def ofItems (size : Nat) (ds : List Datum) : Table :=
  ds.foldl (fun t d => (t.insert d).1) (empty size)

/-- Whether a table with some items is so full that it has to grow. -/
def isFull (t : Table) (used : Nat) : Bool :=
  (t.size - 1) * 3 ≤ used * 5

/-- A larger table with the same items, of which there are `used`. -/
def grown (t : Table) (used : Nat) : Table :=
  ofItems (sizeAbove (if 50000 < used then used * 2 else used * 4)) t.items

/-- A table with room for the items of a set beside its own. -/
def roomier (t : Table) (used more : Nat) : Table :=
  if t.isFull (used + more) then ofItems (sizeAbove ((used + more) * 2)) t.items else t

/-- A table with items more, how many items it has then, and those that are new, the last one
first. -/
def extend (t : Table) (used : Nat) (ds : List Datum) : Table × Nat × List Datum :=
  ds.foldl (fun (t, used, found) d =>
    let (t, isNew) := t.insert d
    if !isNew then (t, used, found)
    else (if t.isFull (used + 1) then t.grown (used + 1) else t, used + 1, d :: found))
    (t, used, [])

end Table

/-- Different items in the order of a set: of a table that grows when three fifths of it are full.
Items whose numbers change from run to run are left in the order in which they come. -/
def laidOut (items : List Datum) : List Datum :=
  let (table, _, found) := (Table.empty 8).extend 0 items
  if areSteady items then table.items else found.reverse

/-- The table of a set that takes over the items of another one at once. -/
def relaidTable (items : List Datum) : Table :=
  let n := items.length
  items.foldl (fun t d => (t.insert d).1) ((Table.empty 8).roomier 0 n)

/-- The items of a set in another one that takes them over at once. -/
def relaid (items : List Datum) : List Datum :=
  if areSteady items then (relaidTable items).items else items

/-- The items of two sets in a single one. -/
def unitedItems (xs ys : List Datum) : List Datum :=
  let n := xs.length
  let (table, _, found) := ((relaidTable xs).roomier n ys.length).extend n ys
  if areSteady xs && areSteady ys then table.items else xs ++ found.reverse

/-- A set of items. -/
def ofItems (items : List Datum) : Except Fault Datum := do
  return set (laidOut (← items.mapM asKey))

end Nsis.Datum
