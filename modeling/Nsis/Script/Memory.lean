import Nsis.Bytes

/-!
# Memory

The disassembler works on a memory into which pieces were written. Of two pieces that overlap, the
later one counts; where nothing was written, memory is zero.

## Main definitions

* `Nsis.Script.Piece` — bytes at an address.
* `Nsis.Script.Memory` — the pieces, the latest one first.
* `Nsis.Script.Memory.byte`, `dword`, `bytes` — reading.
* `Nsis.Script.Memory.write` — writing a piece.
* `Nsis.Script.Memory.limit` — an address from which on memory is zero.

## Main results

* `Nsis.Script.Memory.dword_eq_zero` — from the limit on, memory is zero.
-/

namespace Nsis.Script

/-- Bytes at an address. -/
structure Piece where
  start : Int
  content : Array UInt8
  deriving Repr

namespace Piece

/-- The byte at an address, if the piece has one there. -/
def byte? (p : Piece) (address : Int) : Option UInt8 :=
  if address < p.start then none else p.content[(address - p.start).toNat]?

/-- The address behind the piece. -/
def stop (p : Piece) : Int := p.start + p.content.size

/-- Behind a piece, it has no bytes. -/
theorem byte?_eq_none {p : Piece} {address : Int} (h : p.stop ≤ address) :
    p.byte? address = none := by
  unfold byte?
  split
  · rfl
  · simp only [stop] at h
    exact Array.getElem?_eq_none (by omega)

end Piece

/-- A memory: the pieces written so far, the latest one first. -/
structure Memory where
  pieces : List Piece := []
  deriving Repr

namespace Memory

/-- The byte that the first of the pieces with a byte at an address has there. -/
def byteOf (address : Int) : List Piece → UInt8
  | [] => 0
  | p :: ps =>
    match p.byte? address with
    | some b => b
    | none => byteOf address ps

/-- The byte at an address. -/
def byte (m : Memory) (address : Int) : UInt8 :=
  byteOf address m.pieces

/-- The `n` bytes from an address on. -/
def bytes (m : Memory) (address : Int) (n : Nat) : Bytes :=
  (List.range n).map fun (i : Nat) => m.byte (address + i)

/-- The word at an address, least significant byte first. -/
def dword (m : Memory) (address : Int) : Nat :=
  (m.bytes address 4).value

/-- The memory after a piece was written. -/
def write (m : Memory) (address : Int) (content : Bytes) : Memory :=
  ⟨⟨address, content.toArray⟩ :: m.pieces⟩

/-- The last address behind one of the pieces. -/
def limitOf : List Piece → Int
  | [] => 0
  | p :: ps => max p.stop (limitOf ps)

/-- An address from which on memory is zero. -/
def limit (m : Memory) : Int :=
  limitOf m.pieces

/-- Behind all pieces, bytes are zero. -/
theorem byteOf_eq_zero {ps : List Piece} {address : Int} (h : limitOf ps ≤ address) :
    byteOf address ps = 0 := by
  induction ps with
  | nil => rfl
  | cons p ps ih =>
    simp only [limitOf] at h
    have hp : p.stop ≤ address := by omega
    simp only [byteOf, Piece.byte?_eq_none hp]
    exact ih (by omega)

/-- Behind the limit of a memory, bytes are zero. -/
theorem byte_eq_zero {m : Memory} {address : Int} (h : m.limit ≤ address) : m.byte address = 0 :=
  byteOf_eq_zero h

/-- Behind the limit of a memory, words are zero. -/
theorem dword_eq_zero {m : Memory} {address : Int} (h : m.limit ≤ address) :
    m.dword address = 0 := by
  have hb : ∀ i : Nat, m.byte (address + i) = 0 := fun i => byte_eq_zero (by omega)
  simp [dword, bytes, hb, List.range, List.range.loop, Bytes.value]

/-- A word that is not zero stands before the limit. -/
theorem lt_limit {m : Memory} {address : Int} (h : m.dword address ≠ 0) : address < m.limit := by
  by_cases hlt : address < m.limit
  · exact hlt
  · exact absurd (dword_eq_zero (by omega)) h

end Memory

end Nsis.Script
