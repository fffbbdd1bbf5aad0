import Nsis.Image.Header

/-!
# Blocks

The unpacked header of an installer is divided into blocks. A block ends where the next one that is
present begins.

## Main definitions

* `Nsis.Image.blockEnd` — where a block ends.
* `Nsis.Image.block` — the bytes of a block.
-/

namespace Nsis.Image

/-- The offset of the first block that is present in a list of blocks. -/
def firstOffset? (blocks : List BlockHeader) : Option Nat :=
  (blocks.find? fun b => 0 < b.offset).map (·.offset.toNat)

/-- Where block `n` ends: at the next block that is present. Behind the last one the number of
blocks stands for the end. -/
def blockEnd (i : Image) (n : Int) : Nat :=
  (firstOffset? (Signed.suffix i.header.blocks (n + 1))).getD i.header.blocks.length

/-- The bytes of block `n`; a negative number counts from the last block. -/
def block (i : Image) (n : Int) : Except Fault Bytes :=
  match i.blockHeader n with
  | .ok b => .ok (Signed.slice i.raw b.offset.toNat (i.blockEnd n))
  | .error e => .error e

/-- The offset of block `n`, or zero. -/
def blockOffset (i : Image) (n : Nat) : Nat :=
  (i.header.blocks[n]?.map (·.offset.toNat)).getD 0

/-- The number of records in block `n`, or zero. -/
def blockNum (i : Image) (n : Nat) : Nat :=
  (i.header.blocks[n]?.map (·.num.toNat)).getD 0

end Nsis.Image
