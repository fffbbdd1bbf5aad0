import Nsis.Image.File

/-!
# The first header

The data of an installer are appended to an executable. They begin with the first header, at a
multiple of 512 bytes, which is recognised by a signature word and a magic text.

## Main definitions

* `Nsis.FirstHeader` — the first header and where it was found.
* `Nsis.FirstHeader.ofChunk` — the first header at the start of a chunk.
* `Nsis.FirstHeader.find` — searching a file for it.
-/

namespace Nsis

/-- The first header of an installer. -/
structure FirstHeader where
  flags : UInt32
  signature : UInt32
  magic : Bytes
  /-- The announced size of the unpacked header. -/
  unpackedSize : UInt32
  /-- The announced size of everything packed. -/
  packedSize : UInt32
  /-- Where the first header stands, counted from where the search began. -/
  headerOffset : Nat
  /-- Where the data behind it begin. -/
  dataOffset : Nat
  deriving DecidableEq, Repr

namespace FirstHeader

/-- The size of a first header. -/
def size : Nat := 28

/-- The distance between places where a first header may stand. -/
def alignment : Nat := 512

/-- The signature of a first header. -/
def expectedSignature : UInt32 := 0xdeadbeef

/-- The magic text of a first header, `NullsoftInst`. -/
def expectedMagic : Bytes :=
  [0x4e, 0x75, 0x6c, 0x6c, 0x73, 0x6f, 0x66, 0x74, 0x49, 0x6e, 0x73, 0x74]

/-- The first header at the start of a chunk that stands at `offset`. -/
def ofChunk (chunk : Bytes) (offset : Nat) : FirstHeader where
  flags := chunk.word 0
  signature := chunk.word 4
  magic := (chunk.drop 8).take 12
  unpackedSize := chunk.word 20
  packedSize := chunk.word 24
  headerOffset := offset
  dataOffset := offset + size

/-- Whether signature and magic text are those of a first header. -/
def isValid (h : FirstHeader) : Bool :=
  h.signature = expectedSignature && h.magic = expectedMagic

/-- Search chunk after chunk, from `offset` on; the answer and how far was read. The search ends at
a chunk that is too short for a first header. -/
def search (offset : Nat) (rest : Bytes) : Option FirstHeader × Nat :=
  let chunk := rest.take alignment
  if _h : chunk.length < size then (none, offset + chunk.length)
  else if (ofChunk chunk offset).isValid then
    (some (ofChunk chunk offset), offset + chunk.length)
  else search (offset + chunk.length) (rest.drop alignment)
termination_by rest.length
decreasing_by
  have hlen : chunk.length = min alignment rest.length := List.length_take
  simp only [alignment, size, List.length_drop] at *
  omega

/-- Search a file for the first header, from its position on. The file is left behind what was
read. -/
def find (f : File) : Option FirstHeader × File :=
  let (found, n) := search 0 f.rest
  (found, { f with pos := f.pos + n })

end FirstHeader

end Nsis
