import Nsis.Bytes

/-!
# Reading bit fields

Bits are taken from the input most significant first. Between two fields, bits that were fetched
and not yet used wait in a 32-bit word. A field that the input cannot fill is not read at all: the
bytes fetched for it stay in the word, and the read may be repeated when there is more input.

## Main definitions

* `Nsis.Bzip2.BitReader` — the waiting bits and the input.
* `Nsis.Bzip2.BitReader.bits` — how many bits are left.
* `Nsis.Bzip2.BitReader.read` — reading a field of a given width.

## Main results

* `Nsis.Bzip2.BitReader.bits_of_read_some` — a field of width `n` takes `n` bits.
* `Nsis.Bzip2.BitReader.bits_of_read_none` — a failed read takes none.
-/

namespace Nsis.Bzip2

/-- Bits waiting to be read, and the input after them. The waiting bits are the `live` lowest bits
of `word`, the highest of them being the next. -/
structure BitReader where
  word : UInt32 := 0
  live : Nat := 0
  input : Bytes := []
  deriving Repr

namespace BitReader

/-- How many bits are left. -/
def bits (r : BitReader) : Nat :=
  r.live + 8 * r.input.length

/-- The field of `n` bits below the `live - n` lowest bits of a word. -/
def fieldOf (word : UInt32) (live n : Nat) : Nat :=
  ((word >>> UInt32.ofNat (live - n)) &&& ((1 <<< UInt32.ofNat n) - 1)).toNat

/-- Fetch bytes until `n` bits wait, then take them. -/
def readFrom (n : Nat) (word : UInt32) (live : Nat) (input : Bytes) : Option Nat × BitReader :=
  if n ≤ live then (some (fieldOf word live n), ⟨word, live - n, input⟩)
  else
    match input with
    | [] => (none, ⟨word, live, []⟩)
    | b :: rest => readFrom n ((word <<< 8) ||| b.toUInt32) (live + 8) rest

/-- Read a field of `n` bits, or nothing if the input does not hold that many. -/
def read (n : Nat) (r : BitReader) : Option Nat × BitReader :=
  readFrom n r.word r.live r.input

/-- A field of width `n` takes `n` bits. -/
theorem bits_of_readFrom_some {n : Nat} {word : UInt32} {live : Nat} {input : Bytes} {v : Nat}
    {r : BitReader} (h : readFrom n word live input = (some v, r)) :
    r.bits + n = live + 8 * input.length := by
  fun_induction readFrom n word live input with
  | case1 word live input hn =>
    simp only [Prod.mk.injEq, Option.some.injEq] at h
    obtain ⟨-, rfl⟩ := h
    simp only [bits]
    omega
  | case2 word live hn => simp at h
  | case3 word live hn b rest ih =>
    have := ih h
    simp only [List.length_cons]
    omega

/-- A failed read takes no bit. -/
theorem bits_of_readFrom_none {n : Nat} {word : UInt32} {live : Nat} {input : Bytes}
    {r : BitReader} (h : readFrom n word live input = (none, r)) :
    r.bits = live + 8 * input.length := by
  fun_induction readFrom n word live input with
  | case1 word live input hn => simp at h
  | case2 word live hn =>
    simp only [Prod.mk.injEq, true_and] at h
    obtain rfl := h
    simp [bits]
  | case3 word live hn b rest ih =>
    have := ih h
    simp only [List.length_cons]
    omega

/-- A field of width `n` takes `n` bits. -/
theorem bits_of_read_some {n v : Nat} {r r' : BitReader} (h : r.read n = (some v, r')) :
    r'.bits + n = r.bits :=
  bits_of_readFrom_some h

/-- A failed read takes no bit. -/
theorem bits_of_read_none {n : Nat} {r r' : BitReader} (h : r.read n = (none, r')) :
    r'.bits = r.bits :=
  bits_of_readFrom_none h

end BitReader

end Nsis.Bzip2
