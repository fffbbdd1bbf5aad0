import Mathlib.Data.List.Basic
import Nsis.Proofs.Image.Recognition

/-!
# What is unpacked

The header at a place of a file is unpacked in two steps: its packing is decided on from the bytes
there, and then a part of what follows is handed to the method of packing. The files that are moved
about in this do not matter, so that the result is a function of the bytes at the place.

## Main definitions

* `Nsis.File.dataAt` — the bytes from a place of a file on.
* `Nsis.Method.decode`, `Nsis.Method.share` — what a method makes of data, and what it takes of
  them.
* `Nsis.Packing.decided` — the packing that is decided on.
* `Nsis.Unpacked.ofStream` — the header at the start of a stream that holds all data.

## Main results

* `Nsis.Unpacked.ofFile_eq` — the decision, and what is handed to the method.
* `Nsis.Unpacked.ofFile_of_solid`, `Nsis.Unpacked.ofFile_of_framed` — the two cases of it.
-/

namespace Nsis

/-! ## Places of a file -/

namespace File

/-- The bytes from a place of a file on. -/
def dataAt (f : File) (offset : Int) : Bytes :=
  f.content.drop offset.toNat

/-- A place can be sought if it is counted by 63 bits, also beyond the end of the file. -/
lemma seek_natCast (f : File) (n : Nat) :
    f.seek n = if n < 2 ^ 63 then .ok { f with pos := n } else .error .hugePosition := by
  have hfits : Signed.fits n = decide (n < 2 ^ 63) := by
    simp only [Signed.fits, decide_eq_decide]
    omega
  have hneg : ¬ (n : Int) < 0 := by omega
  rw [seek, hfits, if_neg hneg, Int.toNat_natCast]
  by_cases h : n < 2 ^ 63
  · rw [if_neg (by simpa using h), if_pos h]
  · rw [if_pos (by simpa using h), if_neg h]

/-- Where a file was moved to and what was read there do not matter for where it is moved to
next. -/
lemma seek_read_of_seek {f f' : File} {offset : Int} (h : f.seek offset = .ok f')
    (size position : Int) : (f'.read size).2.seek position = f.seek position := by
  rw [eq_of_seek h]
  rfl

/-- Behind a seek, the rest of the file are the data there. -/
lemma rest_of_seek {f f' : File} {offset : Int} (h : f.seek offset = .ok f') :
    f'.rest = f.dataAt offset := by
  rw [eq_of_seek h]
  rfl

/-- Behind a seek, reading gives the first data there. -/
lemma read_of_seek {f f' : File} {offset : Int} (h : f.seek offset = .ok f') (n : Nat) :
    (f'.read n).1 = (f.dataAt offset).take n := by
  have hneg : ¬ (n : Int) < 0 := by omega
  simp only [read, if_neg hneg, Int.toNat_natCast, rest_of_seek h]

end File

/-! ## Methods -/

namespace Method

/-- What a method makes of data. -/
def decode : Method → Bytes → Except Fault Bytes
  | lzma, data => Lzma.decompress data
  | bzip2, data => .ok (Bzip2.decompress data)
  | deflate, data => Deflate.inflate data

/-- What a method takes of the data at its place, when `size` is the announced size. -/
def share (m : Method) (size : Nat) (data : Bytes) : Bytes :=
  if m = lzma then data else data.take size

/-- Unpacking decodes the share of the rest of the file that the method takes. -/
lemma unpack_eq (m : Method) (f : File) {size : Nat} (hsize : Signed.fits size = true) :
    ∃ f', m.unpack f size = (m.decode (m.share size f.rest)).map (·, f') := by
  have hneg : ¬ (size : Int) < 0 := by omega
  cases m with
  | lzma =>
    refine ⟨(f.read (-1)).2, ?_⟩
    simp [unpack, decode, share, File.read]
  | bzip2 =>
    refine ⟨(f.read size).2, ?_⟩
    simp [unpack, decode, share, File.read, hsize, hneg, Except.map]
  | deflate =>
    refine ⟨(f.read size).2, ?_⟩
    simp [unpack, decode, share, File.read, hsize, hneg]

end Method

/-- A word is a size that fits. -/
lemma Signed.fits_toNat (w : UInt32) : Signed.fits w.toNat = true := by
  have hlt := w.toNat_lt
  simp only [Signed.fits, decide_eq_true_eq]
  omega

/-! ## Headers -/

/-- The packing that is decided on for the header at a place. -/
def Packing.decided (f : File) (offset : Int) : Except Fault Packing := do
  let f ← f.seek offset
  let chunk := (f.read chunkSize).1
  let _ ← leadingWord chunk
  ofChunk chunk

/-- The header at the start of a stream that holds all data. What the method makes of the stream
begins with the size of the header. -/
def Unpacked.ofStream (m : Method) (stream : Bytes) : Except Fault Unpacked := do
  let data ← m.decode stream
  let size ← leadingWord data
  return ⟨(data.drop 4).take size.toNat, size.toNat, ⟨m, true⟩⟩

/-- The word at the start of a chunk is the one at the start of the data. -/
lemma leadingWord_take {data : Bytes} {w : UInt32} (h : leadingWord (data.take chunkSize) = .ok w) :
    w = data.word 0 := by
  rw [leadingWord] at h
  split_ifs at h
  cases h
  simp [Bytes.word, List.take_take, chunkSize]

/-- **What is unpacked.** After the decision on the packing, a solid header is unpacked from the
bytes at its place, and any other from those behind the word there; the word is the announced size
in both cases. -/
theorem Unpacked.ofFile_eq (f : File) (offset : Int) :
    ofFile f offset = (do
      let packing ← Packing.decided f offset
      let m := packing.method
      let word := (f.dataAt offset).word 0
      if packing.solid then ofStream m (m.share word.toNat (f.dataAt offset))
      else
        let size := (word &&& 0x7fffffff).toNat
        let _ ← f.seek (offset + 4)
        let data ← m.decode (m.share size (f.dataAt (offset + 4)))
        return ⟨data, size, packing⟩) := by
  simp only [ofFile, Packing.decided, bind, Except.bind]
  cases hseek : f.seek offset with
  | error e => rfl
  | ok f₁ =>
    simp only [File.seek_read_of_seek hseek]
    cases hword : leadingWord (f₁.read chunkSize).1 with
    | error e => rfl
    | ok w =>
      rw [File.read_of_seek hseek] at hword
      obtain rfl := leadingWord_take hword
      cases hchunk : Packing.ofChunk (f₁.read chunkSize).1 with
      | error e => rfl
      | ok packing =>
        obtain ⟨m, solid⟩ := packing
        cases solid with
        | true =>
          obtain ⟨f₂, hunpack⟩ := m.unpack_eq f₁ (Signed.fits_toNat ((f.dataAt offset).word 0))
          rw [File.rest_of_seek hseek] at hunpack
          simp only [if_true, hseek, hunpack, ofStream, bind, Except.bind]
          cases m.decode (m.share ((f.dataAt offset).word 0).toNat (f.dataAt offset)) <;> rfl
        | false =>
          simp only [Bool.false_eq_true, if_false]
          cases hbehind : f.seek (offset + 4) with
          | error e => rfl
          | ok f₂ =>
            obtain ⟨f₃, hunpack⟩ :=
              m.unpack_eq f₂ (Signed.fits_toNat ((f.dataAt offset).word 0 &&& 0x7fffffff))
            rw [File.rest_of_seek hbehind] at hunpack
            simp only [hunpack]
            cases m.decode (m.share _ (f.dataAt (offset + 4))) <;> rfl

/-- A solid header is unpacked from what the method takes of the bytes at its place. -/
lemma Unpacked.ofFile_of_solid {f : File} {offset : Int} {m : Method}
    (h : Packing.decided f offset = .ok ⟨m, true⟩) :
    ofFile f offset = ofStream m (m.share ((f.dataAt offset).word 0).toNat (f.dataAt offset)) := by
  rw [ofFile_eq, h]
  rfl

/-- A header that is packed on its own is unpacked from what the method takes of the bytes behind
the word. -/
lemma Unpacked.ofFile_of_framed {f : File} {offset : Int} {m : Method}
    (h : Packing.decided f offset = .ok ⟨m, false⟩) :
    ofFile f offset = (do
      let size := ((f.dataAt offset).word 0 &&& 0x7fffffff).toNat
      let _ ← f.seek (offset + 4)
      let data ← m.decode (m.share size (f.dataAt (offset + 4)))
      return ⟨data, size, ⟨m, false⟩⟩) := by
  rw [ofFile_eq, h]
  rfl

end Nsis
