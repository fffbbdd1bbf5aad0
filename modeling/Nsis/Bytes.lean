/-!
# Byte strings

Everything an installer holds is a byte string. Words are stored with their least significant
byte first.

## Main definitions

* `Nsis.Bytes` — byte strings, as lists.
* `Nsis.Bytes.value` — the number that a little-endian byte string denotes.
* `Nsis.Bytes.ofValue` — the little-endian byte string of a given width for a number.
* `Nsis.Bytes.word`, `Nsis.Bytes.int` — the unsigned and the signed 32-bit word at an offset.
* `Nsis.Bytes.ofWord` — the four bytes of a word.
-/

namespace Nsis

/-- A byte string. -/
abbrev Bytes := List UInt8

namespace Bytes

/-- The number a little-endian byte string denotes. -/
def value : Bytes → Nat
  | [] => 0
  | b :: bs => b.toNat + 256 * value bs

/-- The `width` little-endian bytes of `n`; what does not fit is dropped. -/
def ofValue : (width : Nat) → (n : Nat) → Bytes
  | 0, _ => []
  | width + 1, n => UInt8.ofNat (n % 256) :: ofValue width (n / 256)

/-- The unsigned word at offset `i`; bytes beyond the end count as zero. -/
def word (b : Bytes) (i : Nat) : UInt32 :=
  UInt32.ofNat (value ((b.drop i).take 4))

/-- The signed word at offset `i`, in two's complement. -/
def int (b : Bytes) (i : Nat) : Int32 :=
  (word b i).toInt32

/-- The four bytes of a word, least significant first. -/
def ofWord (w : UInt32) : Bytes :=
  ofValue 4 w.toNat

/-- A value is written with as many bytes as it is given. -/
@[simp] theorem length_ofValue (width n : Nat) : (ofValue width n).length = width := by
  induction width generalizing n with
  | zero => rfl
  | succ width ih => simp [ofValue, ih]

/-- A word is four bytes. -/
@[simp] theorem length_ofWord (w : UInt32) : (ofWord w).length = 4 :=
  length_ofValue 4 w.toNat

/-- A word is the number that its bytes denote. -/
theorem value_ofWord (w : UInt32) : value (ofWord w) = w.toNat := by
  have hlt := w.toNat_lt
  simp only [ofWord, ofValue, value, UInt8.toNat_ofNat', Nat.mul_zero, Nat.add_zero]
  omega

/-- The word at the place where its bytes were put. -/
theorem word_ofWord_append (w : UInt32) (rest : Bytes) : (ofWord w ++ rest).word 0 = w := by
  have htake : (ofWord w ++ rest).take 4 = ofWord w := by
    rw [← length_ofWord w]
    exact List.take_left
  rw [word, List.drop_zero, htake, value_ofWord, UInt32.ofNat_toNat]

end Bytes

end Nsis
