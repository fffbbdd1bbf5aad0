import Nsis.Bzip2.Stream
import Nsis.Deflate.Inflate
import Nsis.Image.File
import Nsis.Lzma.Decoder

/-!
# How the header is packed

Behind the first header stands the packed header. In a solid installer it is the beginning of one
stream that holds all data; otherwise a word with its highest bit set gives the size of the packed
header. The method of packing is recognised by the first bytes.

## Main definitions

* `Nsis.Method` — the methods of packing.
* `Nsis.looksLikeLzma`, `Nsis.looksLikeBzip2` — recognising a method.
* `Nsis.Method.unpack` — unpacking from a file.
* `Nsis.Packing.ofChunk` — the packing that the first bytes show.
* `Nsis.Unpacked.ofFile` — unpacking the header.
-/

namespace Nsis

/-- The methods of packing. -/
inductive Method where
  | lzma
  | bzip2
  | deflate
  deriving DecidableEq, Repr

namespace Method

/-- The number of a method. -/
def number : Method → Nat
  | lzma => 1
  | bzip2 => 2
  | deflate => 3

/-- Unpack `size` bytes from a file, or all that follow; LZMA always takes all, and the others only
as many as 64 bits can count. -/
def unpack (m : Method) (f : File) (size : Int) : Except Fault (Bytes × File) :=
  if m ≠ lzma && !Signed.fits size then .error .hugeCount
  else
    let (data, f) := f.read (if m = lzma then -1 else size)
    match m with
    | lzma => (Lzma.decompress data).map (·, f)
    | bzip2 => .ok (Bzip2.decompress data, f)
    | deflate => (Deflate.inflate data).map (·, f)

end Method

/-- The byte at position `i`. -/
def byteAt (data : Bytes) (i : Nat) : Except Fault UInt8 :=
  match data[i]? with
  | some b => .ok b
  | none => .error .byteRange

/-- Whether data begin with the usual LZMA properties, a dictionary size that is a multiple of
65536, and a stream whose first byte is zero and whose second is below 128. The later bytes are
looked at only if the earlier ones fit. -/
def hasLzmaStart (data : Bytes) : Except Fault Bool := do
  if data.take 3 ≠ [0x5d, 0, 0] then return false
  let zero ← byteAt data 5
  if zero ≠ 0 then return false
  let next ← byteAt data 6
  return next &&& 0x80 = 0

/-- Whether data look like an LZMA stream, possibly behind a byte that says whether a filter was
used. -/
def looksLikeLzma (data : Bytes) : Except Fault Bool := do
  if ← hasLzmaStart data then return true
  let filter ← byteAt data 0
  if filter ≤ 1 then hasLzmaStart (data.drop 1) else return false

/-- Whether data look like a block-sorted stream: the mark of a block, and a row that is not too
large. -/
def looksLikeBzip2 (data : Bytes) : Except Fault Bool := do
  let mark ← byteAt data 0
  if mark ≠ 0x31 then return false
  let high ← byteAt data 1
  return high < 0x0e

/-- How a header is packed. -/
structure Packing where
  method : Method
  solid : Bool
  deriving DecidableEq, Repr

/-- The method that data show when LZMA is out of the question: block sorting, or else deflate. -/
def methodUnlessLzma (data : Bytes) : Except Fault Method := do
  if ← looksLikeBzip2 data then return .bzip2 else return .deflate

/-- The packing that the first bytes show. Without an LZMA stream at the very start, a word whose
highest byte is 128 announces a packed header of that size. -/
def Packing.ofChunk (chunk : Bytes) : Except Fault Packing := do
  if ← looksLikeLzma chunk then return ⟨.lzma, true⟩
  if (← byteAt chunk 3) = 0x80 then
    let chunk := chunk.drop 4
    if ← looksLikeLzma chunk then return ⟨.lzma, false⟩
    return ⟨← methodUnlessLzma chunk, false⟩
  return ⟨← methodUnlessLzma chunk, true⟩

/-- The word at the start of data. -/
def leadingWord (data : Bytes) : Except Fault UInt32 :=
  if data.length < 4 then .error (.shortRecord 4 data.length) else .ok (data.word 0)

/-- How many bytes are read to recognise the packing. -/
def chunkSize : Nat := 12

/-- An unpacked header. -/
structure Unpacked where
  data : Bytes
  /-- The announced size: of the packed header, or in a solid installer of the unpacked one. -/
  size : Nat
  packing : Packing
  deriving Repr

/-- Unpack the header that stands at `offset`. The word at its start serves as the size of what is
to be unpacked, in a solid installer too. A solid stream begins with the size of the header. -/
def Unpacked.ofFile (f : File) (offset : Int) : Except Fault Unpacked := do
  let f ← f.seek offset
  let (chunk, f) := f.read chunkSize
  let size ← leadingWord chunk
  let packing ← Packing.ofChunk chunk
  if packing.solid then
    let f ← f.seek offset
    let (data, _) ← packing.method.unpack f size.toNat
    let size ← leadingWord data
    return ⟨(data.drop 4).take size.toNat, size.toNat, packing⟩
  else
    let size := (size &&& 0x7fffffff).toNat
    let f ← f.seek (offset + 4)
    let (data, _) ← packing.method.unpack f size
    return ⟨data, size, packing⟩

end Nsis
