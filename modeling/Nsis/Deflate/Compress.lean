import Nsis.Deflate.Inflate
import Nsis.Deflate.Piece
import Nsis.Deflate.Tree

/-!
# Deflating

The pieces of a byte string are written in blocks. Each block is stored as it is, or coded with the
fixed codes or with codes of its own, whichever is the shortest.

## Main definitions

* `Nsis.Deflate.Target` — what has been written of a stream.
* `Nsis.Deflate.lengthRuns` — the lengths of codes as they are written in a block.
* `Nsis.Deflate.putBlock` — write a block.
* `Nsis.Deflate.deflate` — a byte string as a deflate stream.
-/

namespace Nsis.Deflate

/-! ### Bits -/

/-- What has been written of a stream: its bytes, and the `live` lowest bits of the next one. -/
structure Target where
  out : Array UInt8 := #[]
  rest : Nat := 0
  live : Nat := 0

namespace Target

/-- Write whole bytes of a number of bits. -/
def bytesOut (out : Array UInt8) (rest : Nat) : (live : Nat) → Target
  | n + 8 => bytesOut (out.push (UInt8.ofNat rest)) (rest / 0x100) n
  | live => ⟨out, rest, live⟩

/-- Write the `width` lowest bits of a number, the least significant one first. -/
def put (t : Target) (value width : Nat) : Target :=
  bytesOut t.out (t.rest + value % Nat.pow 2 width * Nat.pow 2 t.live) (t.live + width)

/-- Fill the current byte up. -/
def align (t : Target) : Target :=
  if t.live = 0 then t else t.put 0 (8 - t.live)

/-- Write a byte string behind what fills the current byte up. -/
def putBytes (t : Target) (b : Bytes) : Target :=
  { t.align with out := t.align.out ++ b.toArray }

end Target

/-- The lowest bits of a number in the opposite order. -/
def turnedBits (n : Nat) : (width : Nat) → Nat
  | 0 => 0
  | width + 1 => n % 2 * Nat.pow 2 width + turnedBits (n / 2) width

/-- The codes of symbols by the lengths of their codes, as they are written: with their lengths, and
their bits in the opposite order. -/
def writtenCodes (lengths : List Nat) : Array (Nat × Nat) :=
  let count := fun (n : Nat) => lengths.count n
  let firsts := ((List.range maxBits).foldl (fun (firsts : Array Nat) i =>
    firsts.push (2 * (firsts.back?.getD 0 + if i = 0 then 0 else count i))) #[0])
  (lengths.foldl (fun (codes, next) n =>
    let code := next.getD n 0
    (codes.push (turnedBits code n, n), next.setIfInBounds n (code + 1)))
    ((#[] : Array (Nat × Nat)), firsts)).1

/-! ### Symbols of pieces -/

/-- The number of the last entry of a table whose least value is not above a number, with what is
above it and the number of its extra bits. -/
def entryFor (table : Array (Nat × Nat)) (n : Nat) : Nat × Nat × Nat :=
  let i := (table.toList.takeWhile fun p => p.1 ≤ n).length - 1
  let (least, extra) := table.getD i (0, 0)
  (i, n - least, extra)

/-- The symbol of a literal or a length, with its extra bits, and that of a distance. -/
def symbolsOf : Piece → (Nat × Nat × Nat) × Option (Nat × Nat × Nat)
  | .literal b => ((b.toNat, 0, 0), none)
  | .copy length distance =>
    let (i, more, extra) := entryFor lengthTable length
    ((i + endOfBlock + 1, more, extra), some (entryFor distanceTable distance))

/-- How often each of some symbols is there. -/
def frequencies (size : Nat) (symbols : List Nat) : List Nat :=
  (symbols.foldl (fun (ws : Array Nat) n => ws.modify n (· + 1)) (Array.replicate size 0)).toList

/-- The lengths of the fixed codes for literals and lengths. -/
def fixedLengths : List Nat :=
  List.replicate 144 8 ++ List.replicate 112 9 ++ List.replicate 24 7 ++ List.replicate 8 8

/-! ### Lengths of codes -/

/-- A symbol of the code for code lengths with its extra bits, for each run of equal lengths. `last`
is the length before the run. -/
def lengthRuns (last : Option Nat) : (fuel : Nat) → List Nat → List (Nat × Nat × Nat)
  | 0, _ | _, [] => []
  | fuel + 1, n :: ns =>
    let all := (n :: ns).takeWhile (· = n)
    let most := if n = 0 then 138 else if last = some n then 6 else 7
    let count := min all.length most
    let rest := lengthRuns (some n) fuel ((n :: ns).drop count)
    let plain := fun (k : Nat) => List.replicate k (n, 0, 0)
    if n = 0 then
      if count < 3 then plain count ++ rest
      else if count ≤ 10 then (17, count - 3, 3) :: rest
      else (18, count - 11, 7) :: rest
    else if last = some n then
      if count < 3 then plain count ++ rest else (16, count - 3, 2) :: rest
    else if count < 4 then plain count ++ rest
    else (n, 0, 0) :: (16, count - 4, 2) :: rest

/-- The codes that a block brings: the lengths for literals and lengths and for distances, the runs
in which they are written, and the lengths for the symbols of these runs. -/
structure OwnCodes where
  literals : List Nat
  distances : List Nat
  runs : List (Nat × Nat × Nat)
  runLengths : List Nat

namespace OwnCodes

/-- The codes for the symbols of a block. -/
def ofSymbols (literals distances : List Nat) : OwnCodes :=
  let ls := codeLengths maxBits (frequencies 286 literals)
  let ds := codeLengths maxBits (frequencies 30 distances)
  let rs := lengthRuns none ls.length ls ++ lengthRuns none ds.length ds
  { literals := ls
    distances := ds
    runs := rs
    runLengths := codeLengths 7 (frequencies 19 (rs.map (·.1))) }

variable (c : OwnCodes)

/-- The lengths for the symbols of runs in the order in which they are written. -/
def orderedLengths : List Nat :=
  let all := lengthOrder.map fun i => c.runLengths.getD i 0
  let used := (all.reverse.dropWhile (· = 0)).length
  all.take (max 4 used)

/-- How many bits it takes to write the codes. -/
def bits : Nat :=
  3 * c.orderedLengths.length + 14
    + c.runs.foldl (fun n (sym, _, extra) => n + c.runLengths.getD sym 0 + extra) 0

/-- Write the codes. -/
def put (t : Target) : Target :=
  let t := ((t.put (c.literals.length - 257) 5).put (c.distances.length - 1) 5).put
    (c.orderedLengths.length - 4) 4
  let t := c.orderedLengths.foldl (fun t n => t.put n 3) t
  let codes := writtenCodes c.runLengths
  c.runs.foldl (fun t (sym, more, extra) =>
    let (code, width) := codes.getD sym (0, 0)
    (t.put code width).put more extra) t

end OwnCodes

/-! ### Blocks -/

/-- How many bits the pieces of a block take with some lengths of codes. -/
def codedBits (literals distances : List Nat) (ps : List Piece) : Nat :=
  let (ls, ds) := (literals.toArray, distances.toArray)
  ps.foldl (fun n p =>
    let ((sym, _, extra), dist) := symbolsOf p
    n + ls.getD sym 0 + extra + (dist.map fun (d, _, extra) => ds.getD d 0 + extra).getD 0)
    (ls.getD endOfBlock 0)

/-- Write the pieces of a block with some lengths of codes. -/
def putPieces (literals distances : List Nat) (ps : List Piece) (t : Target) : Target :=
  let (ls, ds) := (writtenCodes literals, writtenCodes distances)
  let symbol := fun (codes : Array (Nat × Nat)) (t : Target) (s : Nat × Nat × Nat) =>
    let (code, width) := codes.getD s.1 (0, 0)
    (t.put code width).put s.2.1 s.2.2
  let t := ps.foldl (fun t p =>
    let (s, dist) := symbolsOf p
    let t := symbol ls t s
    (dist.map (symbol ds t)).getD t) t
  symbol ls t (endOfBlock, 0, 0)

/-- Write a block as it is. -/
def putStored (isLast : Bool) (data : Bytes) (t : Target) : Target :=
  let t := (t.put (if isLast then 1 else 0) 3).align
  ((t.put data.length 16).put (0xffff - data.length) 16).putBytes data

/-- Write a block of pieces that stand for some bytes, in the shortest way. -/
def putBlock (isLast : Bool) (data : Bytes) (ps : List Piece) (t : Target) : Target :=
  let symbols := ps.map symbolsOf
  let own := OwnCodes.ofSymbols (symbols.map (·.1.1) ++ [endOfBlock])
    (symbols.filterMap fun s => s.2.map (·.1))
  let bytesFor := fun (bits : Nat) => (bits + 3 + 7) / 8
  let fixedSize := bytesFor (codedBits fixedLengths (List.replicate 30 5) ps)
  let ownSize := bytesFor (codedBits own.literals own.distances ps + own.bits)
  let final := if isLast then 1 else 0
  if data.length + 4 ≤ min fixedSize ownSize then putStored isLast data t
  else if fixedSize ≤ ownSize then
    putPieces fixedLengths (List.replicate 30 5) ps (t.put (2 + final) 3)
  else putPieces own.literals own.distances ps (own.put (t.put (4 + final) 3))

/-- How many pieces a block has at most. -/
def blockPieces : Nat := 16383

/-- Write blocks of pieces that stand for some bytes. The last block may have none. -/
def putBlocks : (fuel : Nat) → Bytes → List Piece → Target → Target
  | 0, _, _, t => t
  | fuel + 1, data, ps, t =>
    let first := ps.take blockPieces
    if first.length < blockPieces then putBlock true data ps t
    else
      let size := first.foldl (fun n p => n + p.length) 0
      putBlocks fuel (data.drop size) (ps.drop blockPieces)
        (putBlock false (data.take size) first t)

/-- Write bytes as they are. -/
def putAllStored : (fuel : Nat) → Bytes → Target → Target
  | 0, _, t => t
  | fuel + 1, data, t =>
    if data.length ≤ 0xffff then putStored true data t
    else putAllStored fuel (data.drop 0xffff) (putStored false (data.take 0xffff) t)

/-- A byte string as a deflate stream with copies from within a window of `2 ^ bits` bytes, by the
effort of a level from zero to nine. -/
def deflate (level bits : Nat) (data : Bytes) : Bytes :=
  let t := match level, Effort.levels[level - 1]? with
    | 0, _ | _, none => putAllStored (data.length + 1) data {}
    | _, some e =>
      let ps := pieces e bits data
      putBlocks (ps.length + 1) data ps {}
  t.align.out.toList

end Nsis.Deflate
