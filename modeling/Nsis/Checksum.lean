import Nsis.Bytes

/-!
# Checksums

Two checksums of byte strings: the remainder of a division of polynomials, and a pair of sums.

## Main definitions

* `Nsis.Checksum.cyclic` — the cyclic checksum.
* `Nsis.Checksum.sums` — the checksum from sums.
-/

namespace Nsis.Checksum

/-- The polynomial that is divided by, its highest coefficient first. -/
def polynomial : UInt32 := 0xedb88320

/-- One step of the division. -/
def shift (c : UInt32) : UInt32 :=
  if c &&& 1 = 1 then (c >>> 1) ^^^ polynomial else c >>> 1

/-- The division of one byte. -/
def divide (c : UInt32) (b : UInt8) : UInt32 :=
  (List.range 8).foldl (fun c _ => shift c) (c ^^^ b.toUInt32)

/-- The cyclic checksum of a byte string, continued from that of an earlier part. -/
def cyclic (start : UInt32) (b : Bytes) : UInt32 :=
  b.foldl divide (start ^^^ 0xffffffff) ^^^ 0xffffffff

/-- What the sums are counted modulo. -/
def modulus : Nat := 65521

/-- The checksum from the sum of the bytes and the sum of these sums, continued from that of an
earlier part. -/
def sums (start : Nat) (b : Bytes) : Nat :=
  let (low, high) := b.foldl (fun (low, high) c =>
    let low := (low + c.toNat) % modulus
    (low, (high + low) % modulus)) (start % 0x10000, start / 0x10000 % 0x10000)
  high * 0x10000 + low

end Nsis.Checksum
