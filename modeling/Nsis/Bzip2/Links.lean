import Nsis.Bzip2.Windows

/-!
# Undoing the block sort

A block is stored as the last column of its sorted rotations. Each cell of the block holds one byte
of that column in its low eight bits. Linking the cells puts into the high bits of the cell at the
place where a byte stands in the first column the row in which it stands in the last one; following
the links from the row of the block itself then gives its bytes in order.

## Main definitions

* `Nsis.Bzip2.maxBlock` — the largest number of bytes of a block.
* `Nsis.Bzip2.Cell.byte`, `Nsis.Bzip2.Cell.link` — the two parts of a cell.
* `Nsis.Bzip2.starts` — where each byte begins in the first column.
* `Nsis.Bzip2.startsValid` — whether these places fit a block of a given size.
* `Nsis.Bzip2.linkCells` — linking the cells.
-/

namespace Nsis.Bzip2

/-- The largest number of bytes of a block. -/
def maxBlock : Nat := 900000

/-- A cell of a block: a byte, and above it a link to another cell. -/
abbrev Cell := UInt32

namespace Cell

/-- A cell with a byte and no link. -/
def ofByte (b : UInt8) : Cell := b.toUInt32

/-- The byte of a cell. -/
def byte (c : Cell) : UInt8 := c.toUInt8

/-- The link of a cell. -/
def link (c : Cell) : Nat := (c >>> 8).toNat

/-- A cell with a link added. -/
def withLink (c : Cell) (i : Nat) : Cell := c ||| (UInt32.ofNat i <<< 8)

end Cell

/-- The sums of the beginnings of a list, the empty one first. -/
def sums (total : Nat) : List Nat → List Nat
  | [] => [total]
  | n :: ns => total :: sums (total + n) ns

/-- Where each byte begins in the first column, given how often each byte occurs, with the place
behind the last byte at the end. -/
def starts (counts : Array Nat) : Array Nat :=
  (sums 0 counts.toList).toArray

/-- Whether a list of numbers never descends. -/
def ascending : List Nat → Bool
  | a :: b :: rest => a ≤ b && ascending (b :: rest)
  | _ => true

/-- Whether byte counts and places fit a block of `size` bytes. -/
def startsValid (counts places : Array Nat) (size : Nat) : Bool :=
  counts.all (· ≤ size) && places.all (· ≤ size) && ascending places.toList

/-- Link the `n` cells from row `i` on. `places` holds, for each byte, the first row of the first
column that was not linked yet. -/
def linkFrom (i : Nat) : (n : Nat) → Array Cell → Array Nat → Option (Array Cell)
  | 0, cells, _ => some cells
  | n + 1, cells, places =>
    match cells[i]? with
    | none => none
    | some c =>
      match places[c.byte.toNat]? with
      | none => none
      | some p =>
        match cells[p]? with
        | none => none
        | some d =>
          match write? cells p (d.withLink i), write? places c.byte.toNat (p + 1) with
          | some cells, some places => linkFrom (i + 1) n cells places
          | _, _ => none

/-- Link all cells of a block. -/
def linkCells (cells : Array Cell) (places : Array Nat) : Option (Array Cell) :=
  linkFrom 0 cells.size cells places

end Nsis.Bzip2
