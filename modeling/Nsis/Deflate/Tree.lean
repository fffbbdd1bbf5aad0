/-!
# Lengths of codes

Symbols that are frequent get short codes. The two rarest symbols or groups are put together until
there is one group left; of two that are equally rare, the one that is less deep comes first. A code
that would be too long is shortened at the cost of others.

## Main definitions

* `Nsis.Deflate.sink` — put an item in its place in a heap.
* `Nsis.Deflate.Forest` — groups of symbols in the order of their frequency.
* `Nsis.Deflate.codeLengths` — the lengths of the codes of symbols with their frequencies.
-/

namespace Nsis.Deflate

/-- Put an item into a heap of some size, whose items begin at one, from a place on downwards. -/
def sink (isBefore : Nat → Nat → Bool) (size v : Nat) :
    (fuel place : Nat) → (heap : Array Nat) → Array Nat
  | 0, k, heap => heap.setIfInBounds k v
  | fuel + 1, k, heap =>
    let item := fun (i : Nat) => heap.getD i 0
    if size < 2 * k then heap.setIfInBounds k v
    else
      let j :=
        if 2 * k < size && isBefore (item (2 * k + 1)) (item (2 * k)) then 2 * k + 1 else 2 * k
      if isBefore v (item j) then heap.setIfInBounds k v
      else sink isBefore size v fuel j (heap.setIfInBounds k (item j))

/-- Groups of symbols: how frequent and how deep each symbol or group is, what group it is in, and
the groups that are in no other one, as a heap. -/
structure Forest where
  weights : Array Nat
  depths : Array Nat
  parents : Array Nat
  heap : Array Nat
  size : Nat
  /-- What has been put together, the last one first. -/
  joined : List Nat := []

namespace Forest

variable (f : Forest)

/-- Whether a symbol or group comes before another one. -/
def isBefore (n m : Nat) : Bool :=
  let (x, y) := (f.weights.getD n 0, f.weights.getD m 0)
  x < y || (x = y && f.depths.getD n 0 ≤ f.depths.getD m 0)

/-- Put an item into the heap from a place on downwards. -/
def sunk (place v : Nat) : Forest :=
  { f with heap := sink f.isBefore f.size v f.size place f.heap }

/-- The forest of symbols that are each alone. -/
def ofSymbols (weights : Array Nat) (symbols : List Nat) : Forest :=
  let f : Forest := {
    weights
    depths := Array.replicate weights.size 0
    parents := Array.replicate weights.size 0
    heap := (0 :: symbols).toArray
    size := symbols.length }
  ((List.range (f.size / 2)).reverse).foldl (fun f i => f.sunk (i + 1) (f.heap.getD (i + 1) 0)) f

/-- Put the first two of the heap together. -/
def join : Forest :=
  let n := f.heap.getD 1 0
  let f := { f with size := f.size - 1 }.sunk 1 (f.heap.getD f.size 0)
  let m := f.heap.getD 1 0
  let node := f.weights.size
  let f : Forest := { f with
    weights := f.weights.push (f.weights.getD n 0 + f.weights.getD m 0)
    depths := f.depths.push (max (f.depths.getD n 0) (f.depths.getD m 0) + 1)
    parents := ((f.parents.setIfInBounds n node).setIfInBounds m node).push 0
    joined := m :: n :: f.joined }
  f.sunk 1 node

/-- Put all together. -/
def joinAll (f : Forest) : (fuel : Nat) → Forest
  | 0 => f
  | fuel + 1 => if f.size < 2 then f else joinAll f.join fuel

end Forest

/-- The number of codes of each length, after a code that is shorter than the limit has become one
bit longer and has taken one of those at the limit beside it. -/
def paired (limit : Nat) (counts : Array Nat) : Array Nat :=
  let bits := (((List.range limit).drop 1).reverse.find? fun n => counts.getD n 0 ≠ 0).getD 0
  ((counts.modify bits (· - 1)).modify (bits + 1) (· + 2)).modify limit (· - 1)

/-- The number of codes of each length, when some were too long. -/
def shortened (limit : Nat) : (overflow : Nat) → (counts : Array Nat) → Array Nat
  | 0, counts => counts
  | 1, counts => paired limit counts
  | overflow + 2, counts => shortened limit overflow (paired limit counts)

/-- The lengths of the codes of symbols with their frequencies, none longer than a limit, up to the
last symbol with a code. There are always two codes at least. -/
def codeLengths (limit : Nat) (weights : List Nat) : List Nat :=
  let used := (weights.zipIdx.filter fun p => p.1 ≠ 0).map (·.2)
  let forced := match used with
    | [] => [0, 1]
    | [n] => if n < 2 then [n + 1] else [0]
    | _ => []
  let symbols := used ++ forced
  let start := (weights.zipIdx.map fun (w, i) => if forced.contains i then 1 else w).toArray
  let f := (Forest.ofSymbols start symbols).joinAll symbols.length
  let (lengths, overflow) := f.joined.foldl (fun (lengths, overflow) n =>
    let bits := lengths.getD (f.parents.getD n 0) 0 + 1
    (lengths.setIfInBounds n (min bits limit), if limit < bits then overflow + 1 else overflow))
    (Array.replicate f.weights.size 0, 0)
  let isLeaf := fun (n : Nat) => n < weights.length
  let lengths := if overflow = 0 then lengths
    else
      let leaves := f.joined.filter isLeaf
      let counts := leaves.foldl (fun (cs : Array Nat) n => cs.modify (lengths.getD n 0) (· + 1))
        (Array.replicate (limit + 1) 0)
      let counts := shortened limit overflow counts
      let all := ((List.range limit).reverse).flatMap fun b =>
        List.replicate (counts.getD (b + 1) 0) (b + 1)
      (leaves.reverse.zip all).foldl (fun ls (n, b) => ls.setIfInBounds n b) lengths
  let last := symbols.foldl max 0
  (List.range (last + 1)).map fun n => if symbols.contains n then lengths.getD n 0 else 0

end Nsis.Deflate
