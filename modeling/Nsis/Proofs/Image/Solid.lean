import Mathlib.Data.List.Basic
import Nsis.Proofs.Bzip2.Verdict
import Nsis.Proofs.Deflate.Trailing
import Nsis.Proofs.Image.Unpacking

/-!
# Solid streams

In a solid installer the header is the beginning of one stream that holds all data. Only as much of
the stream is unpacked as the number says that its first four bytes happen to form. For most streams
that number is larger than the file, and then the whole stream is unpacked. A deflate stream that is
cut off is noticed, so that the header is the right one if there is any; of a block-sorted stream
less may be unpacked without notice.

## Main results

* `Nsis.Unpacked.ofStream_eq_ok_iff` — when a stream has a header, and which one.
* `Nsis.Unpacked.ofFile_of_solid_stream` — the header of a solid installer.
-/

namespace Nsis

/-! ## Headers of streams -/

/-- The header at the start of what a stream holds. -/
def Unpacked.ofData (m : Method) (data : Bytes) : Unpacked :=
  ⟨(data.drop 4).take (data.word 0).toNat, (data.word 0).toNat, ⟨m, true⟩⟩

/-- **A stream has a header if it can be unpacked and holds at least a size.** -/
lemma Unpacked.ofStream_eq_ok_iff {m : Method} {stream : Bytes} {u : Unpacked} :
    ofStream m stream = .ok u ↔
      ∃ data, m.decode stream = .ok data ∧ 4 ≤ data.length ∧ u = ofData m data := by
  simp only [ofStream, Fault.bind_eq_ok, leadingWord, ofData]
  constructor
  · rintro ⟨data, hdecode, size, hsize, hu⟩
    split_ifs at hsize with hlen
    cases hsize
    cases hu
    exact ⟨data, hdecode, Nat.not_lt.1 hlen, rfl⟩
  · rintro ⟨data, hdecode, hlen, rfl⟩
    exact ⟨data, hdecode, _, if_neg (Nat.not_lt.2 hlen), rfl⟩

/-- What is unpacked further does not change the size of the header, and only continues its data. -/
lemma Unpacked.ofData_prefix {m : Method} {data more : Bytes} (hlen : 4 ≤ data.length)
    (h : data <+: more) :
    (ofData m data).size = (ofData m more).size ∧
      (ofData m data).data <+: (ofData m more).data := by
  obtain ⟨rest, rfl⟩ := h
  have hword : (data ++ rest).word 0 = data.word 0 := by
    simp only [Bytes.word, List.drop_zero, List.take_append_of_le_length hlen]
  simp only [ofData, hword, List.drop_append_of_le_length hlen]
  exact ⟨trivial, (List.prefix_append _ _).take _⟩

/-- **The header of a solid installer** that is not packed with LZMA is unpacked from as many bytes
of its stream as the word at the start of the stream says. It is the header of the whole stream if
the stream is not longer. If it is longer, there may be no header; but if there is one, a deflate
stream has that one, and that of a block-sorted stream has the same size and goes on in the same
way. -/
theorem Unpacked.ofFile_of_solid_stream {f : File} {offset : Int} {m : Method} (hm : m ≠ .lzma)
    (hdecided : Packing.decided f offset = .ok ⟨m, true⟩) {stream : Bytes}
    (hstream : f.dataAt offset = stream) :
    ofFile f offset = ofStream m (stream.take (stream.word 0).toNat) ∧
      (stream.length ≤ (stream.word 0).toNat → ofFile f offset = ofStream m stream) ∧
      ∀ u, ofFile f offset = .ok u →
        (m = .deflate → ofStream m stream = .ok u) ∧
        (m = .bzip2 → ∀ v, ofStream m stream = .ok v →
          u.size = v.size ∧ (u.data <+: v.data ∨ v.data <+: u.data)) := by
  have hfile : ofFile f offset = ofStream m (stream.take (stream.word 0).toNat) := by
    rw [ofFile_of_solid hdecided, hstream, Method.share, if_neg hm]
  have hsplit := List.take_append_drop (stream.word 0).toNat stream
  generalize (stream.word 0).toNat = n at hfile hsplit ⊢
  refine ⟨hfile, fun hn => ?_, fun u hu => ⟨?_, ?_⟩⟩
  · rw [hfile, List.take_of_length_le hn]
  · rintro rfl
    rw [hfile, ofStream_eq_ok_iff] at hu
    obtain ⟨data, hdecode, hlen, rfl⟩ := hu
    have hall := Deflate.inflate_append hdecode (stream.drop n)
    rw [hsplit] at hall
    exact ofStream_eq_ok_iff.2 ⟨data, hall, hlen, rfl⟩
  · rintro rfl v hv
    rw [hfile, ofStream_eq_ok_iff] at hu
    rw [ofStream_eq_ok_iff] at hv
    obtain ⟨data, hdata, hlen, rfl⟩ := hu
    obtain ⟨all, hall, hlen', rfl⟩ := hv
    cases hdata
    cases hall
    have happend := Bzip2.decompress_append (stream.take n) (stream.drop n)
    rw [hsplit] at happend
    rcases happend with hprefix | hprefix
    · obtain ⟨hsize, hdata⟩ := ofData_prefix (m := .bzip2) hlen hprefix
      exact ⟨hsize, .inl hdata⟩
    · obtain ⟨hsize, hdata⟩ := ofData_prefix (m := .bzip2) hlen' hprefix
      exact ⟨hsize.symm, .inr hdata⟩

/-- A stored block that holds a header of four bytes with its size. -/
def storedHeader : Bytes :=
  [1, 8, 0, 0xf7, 0xff, 4, 0, 0, 0, 0xaa, 0xbb, 0xcc, 0xdd]

/-- A stream that holds a header of four bytes with its size gives this header. -/
lemma ofStream_storedHeader (before : Bytes)
    (h : Deflate.inflate (before ++ storedHeader) = .ok [4, 0, 0, 0, 0xaa, 0xbb, 0xcc, 0xdd]) :
    Unpacked.ofStream .deflate (before ++ storedHeader) =
      .ok ⟨[0xaa, 0xbb, 0xcc, 0xdd], 4, ⟨.deflate, true⟩⟩ :=
  Unpacked.ofStream_eq_ok_iff.2 ⟨_, h, by decide, rfl⟩

/-- The first four bytes of this block form a large number, and the header is unpacked. -/
theorem ofFile_storedHeader :
    Packing.decided ⟨storedHeader, 0⟩ 0 = .ok ⟨.deflate, true⟩ ∧
      storedHeader.length ≤ (storedHeader.word 0).toNat ∧
      Unpacked.ofFile ⟨storedHeader, 0⟩ 0 =
        .ok ⟨[0xaa, 0xbb, 0xcc, 0xdd], 4, ⟨.deflate, true⟩⟩ := by
  have hdecided : Packing.decided ⟨storedHeader, 0⟩ 0 = .ok ⟨.deflate, true⟩ := by decide +kernel
  have hlength : storedHeader.length ≤ (storedHeader.word 0).toNat := by decide +kernel
  have hfile := Unpacked.ofFile_of_solid_stream (by decide) hdecided rfl
  exact ⟨hdecided, hlength,
    (hfile.2.1 hlength).trans (ofStream_storedHeader [] (by decide +kernel))⟩

/-- Behind two blocks without data the same block makes a stream whose first four bytes form the
number two. The stream has a header, but it is not unpacked from two bytes. -/
theorem ofFile_ne_ofStream :
    Packing.decided ⟨[2, 0, 0, 0, 0xff, 0xff] ++ storedHeader, 0⟩ 0 = .ok ⟨.deflate, true⟩ ∧
      Unpacked.ofStream .deflate ([2, 0, 0, 0, 0xff, 0xff] ++ storedHeader) =
        .ok ⟨[0xaa, 0xbb, 0xcc, 0xdd], 4, ⟨.deflate, true⟩⟩ ∧
      ∀ u, Unpacked.ofFile ⟨[2, 0, 0, 0, 0xff, 0xff] ++ storedHeader, 0⟩ 0 ≠ .ok u := by
  refine ⟨by decide +kernel, ofStream_storedHeader _ (by decide +kernel), fun u hu => ?_⟩
  have herror :
      (Unpacked.ofFile ⟨[2, 0, 0, 0, 0xff, 0xff] ++ storedHeader, 0⟩ 0).toOption.isNone := by
    decide +kernel
  rw [hu] at herror
  cases herror

end Nsis
