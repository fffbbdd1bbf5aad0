import Nsis.Bytes

/-!
# Pieces of deflated data

A byte string is deflated as literal bytes and copies of earlier parts. Copies are looked for among
the positions with the same three bytes, the last one first; how many are looked at, and whether a
longer copy at the next position is waited for, is a matter of effort.

## Main definitions

* `Nsis.Deflate.Piece` — a literal byte or a copy.
* `Nsis.Deflate.Effort` — how hard copies are looked for.
* `Nsis.Deflate.Finder` — the positions where three bytes have been seen.
* `Nsis.Deflate.pieces` — the pieces of a byte string.
-/

namespace Nsis.Deflate

/-- A literal byte, or a copy of as many bytes from a distance before. -/
inductive Piece where
  | literal (b : UInt8)
  | copy (length distance : Nat)
  deriving DecidableEq, Repr

/-- How many bytes a piece stands for. -/
def Piece.length : Piece → Nat
  | literal _ => 1
  | copy n _ => n

/-- How hard copies are looked for. -/
structure Effort where
  /-- A copy of this length is good enough to look at fewer other ones. -/
  good : Nat
  /-- Behind a copy of this length no longer one is waited for. -/
  lazy : Nat
  /-- A copy of this length ends the search. -/
  nice : Nat
  /-- How many positions are looked at. -/
  chain : Nat
  /-- Whether no longer copy is waited for at all. -/
  greedy : Bool := false
  deriving DecidableEq, Repr

/-- The effort of the levels from one to nine. -/
def Effort.levels : List Effort := [
  { good := 4, lazy := 4, nice := 8, chain := 4, greedy := true },
  { good := 4, lazy := 5, nice := 16, chain := 8, greedy := true },
  { good := 4, lazy := 6, nice := 32, chain := 32, greedy := true },
  { good := 4, lazy := 4, nice := 16, chain := 16 },
  { good := 8, lazy := 16, nice := 32, chain := 32 },
  { good := 8, lazy := 16, nice := 128, chain := 128 },
  { good := 8, lazy := 32, nice := 128, chain := 256 },
  { good := 32, lazy := 128, nice := 258, chain := 1024 },
  { good := 32, lazy := 258, nice := 258, chain := 4096 }]

/-- The shortest copy. -/
def minCopy : Nat := 3

/-- The longest copy. -/
def maxCopy : Nat := 258

/-- The largest distance of a copy of the shortest length that is worth it. -/
def maxShortDistance : Nat := 4096

/-! ### Positions -/

/-- The positions where three bytes have been seen: for each hash of three bytes the last one, and
for each position the one before with the same hash. Position zero stands for none. -/
structure Finder where
  data : Array UInt8
  last : Array Nat
  before : Array Nat

namespace Finder

/-- The finder for data of which nothing has been seen. -/
def ofData (data : Array UInt8) : Finder where
  data := data
  last := Array.replicate 0x8000 0
  before := Array.replicate data.size 0

variable (f : Finder)

/-- A byte of the data. -/
def byte (i : Nat) : UInt8 :=
  f.data.getD i 0

/-- The hash of the three bytes at a position. -/
def hashAt (i : Nat) : Nat :=
  Nat.xor ((f.byte i).toNat * 0x400)
    (Nat.xor ((f.byte (i + 1)).toNat * 0x20) (f.byte (i + 2)).toNat)
    % 0x8000

/-- Remember the three bytes at a position, and give the last position with their hash. -/
def remember (i : Nat) : Nat × Finder :=
  if f.data.size < i + minCopy then (0, f)
  else
    let h := f.hashAt i
    let j := f.last.getD h 0
    (j, { f with last := f.last.setIfInBounds h i, before := f.before.setIfInBounds i j })

/-- Remember some positions from one on. -/
def rememberAll (f : Finder) (i : Nat) : (count : Nat) → Finder
  | 0 => f
  | n + 1 => rememberAll (f.remember i).2 (i + 1) n

/-- How many bytes agree from two positions on, up to a limit. -/
def agreeing (i j : Nat) : (limit : Nat) → Nat
  | 0 => 0
  | n + 1 => if f.byte i = f.byte j then agreeing (i + 1) (j + 1) n + 1 else 0

/-- The longest copy for a position that is longer than `best`, and where it begins, among a number
of candidates that are not at or before `limit`. -/
def longest (i limit nice : Nat) : (chain candidate best start : Nat) → Nat × Nat
  | 0, _, best, start => (best, start)
  | chain + 1, candidate, best, start =>
    let n := f.agreeing i candidate (min maxCopy (f.data.size - i))
    if best < n && nice ≤ n then (n, candidate)
    else
      let (best, start) := if best < n then (n, candidate) else (best, start)
      let next := f.before.getD candidate 0
      if next ≤ limit then (best, start) else longest i limit nice chain next best start

/-- The longest copy for a position that is longer than `best`, among the positions with the same
three bytes from one on. -/
def search (e : Effort) (reach i candidate best start : Nat) : Nat × Nat :=
  let left := f.data.size - i
  let chain := if e.good ≤ best then e.chain / 4 else e.chain
  let (n, start) := f.longest i (i - reach) (min e.nice left) chain candidate best start
  (min n left, start)

end Finder

/-! ### Pieces -/

/-- What the search for pieces has come to. -/
structure Progress where
  finder : Finder
  position : Nat := 0
  /-- The length and the start of the copy for the position before. -/
  length : Nat := minCopy - 1
  start : Nat := 0
  /-- Whether the byte at the position before still has to be written. -/
  waiting : Bool := false

/-- The pieces from a position on, where a longer copy at the next position is waited for. -/
def lazyPieces (e : Effort) (reach : Nat) : (fuel : Nat) → Progress → List Piece
  | 0, _ => []
  | fuel + 1, p =>
    let i := p.position
    if p.finder.data.size ≤ i then
      if p.waiting then [.literal (p.finder.byte (i - 1))] else []
    else
      let (j, f) := p.finder.remember i
      let (length, start) := if j ≠ 0 && p.length < e.lazy && i - j ≤ reach then
          let (n, start) := f.search e reach i j p.length p.start
          if n = minCopy && maxShortDistance < i - start then (minCopy - 1, start) else (n, start)
        else (minCopy - 1, p.start)
      if minCopy ≤ p.length && length ≤ p.length then
        .copy p.length (i - 1 - p.start) :: lazyPieces e reach fuel {
          finder := f.rememberAll (i + 1) (p.length - 2)
          position := i + p.length - 1 }
      else
        let rest := lazyPieces e reach fuel {
          finder := f, position := i + 1, length, start, waiting := true }
        if p.waiting then .literal (f.byte (i - 1)) :: rest else rest

/-- The pieces from a position on, where the first copy is taken. -/
def greedyPieces (e : Effort) (reach : Nat) : (fuel : Nat) → Finder → (position : Nat) → List Piece
  | 0, _, _ => []
  | fuel + 1, f, i =>
    if f.data.size ≤ i then []
    else
      let (j, f) := f.remember i
      let (length, start) := if j ≠ 0 && i - j ≤ reach then
          f.search e reach i j (minCopy - 1) 0
        else (minCopy - 1, 0)
      if length < minCopy then .literal (f.byte i) :: greedyPieces e reach fuel f (i + 1)
      else
        let isShort := length ≤ e.lazy && i + length + minCopy ≤ f.data.size
        let f := if isShort then f.rememberAll (i + 1) (length - 1) else f
        .copy length (i - start) :: greedyPieces e reach fuel f (i + length)

/-- The pieces of a byte string, with copies from within a window of `2 ^ bits` bytes. -/
def pieces (e : Effort) (bits : Nat) (data : Bytes) : List Piece :=
  let reach := Nat.pow 2 bits - (maxCopy + minCopy + 1)
  let f := Finder.ofData data.toArray
  if e.greedy then greedyPieces e reach (data.length + 1) f 0
  else lazyPieces e reach (data.length + 1) { finder := f }

end Nsis.Deflate
