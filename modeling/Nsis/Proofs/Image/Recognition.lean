import Mathlib.Data.List.Basic
import Mathlib.Tactic.SplitIfs
import Nsis.Image.Packing
import Nsis.Proofs.Bzip2.Opening

/-!
# Recognising block-sorted streams

The packing of a header is recognised by its first bytes. A stream from which block sorting decodes
something opens with the mark of a block and a row that is not too large, so it looks like a
block-sorted stream, and never like an LZMA stream. It is still not always taken for one: the fourth
byte is looked at before, and if it is 128, which is possible for the low byte of a row, the stream
is taken for a header that is packed on its own.

## Main results

* `Nsis.looksLikeBzip2_of_opens`, `Nsis.looksLikeLzma_of_opens` — what such a stream looks like.
* `Nsis.decoded_looks_block_sorted` — a stream from which something is decoded looks like this.
* `Nsis.Packing.ofChunk_eq_iff` — when it is recognised.
* `Nsis.solid_bzip2_recognised_iff` — when it is recognised in a file.
-/

namespace Nsis

open Bzip2 (Opens decompress uniformData)

/-! ## Chunks -/

/-- Data that open a block look like a block-sorted stream. -/
lemma looksLikeBzip2_of_opens {data : Bytes} (h : Opens data) : looksLikeBzip2 data = .ok true := by
  obtain ⟨high, middle, low, rest, rfl, hhigh⟩ := h
  simp only [looksLikeBzip2, byteAt, List.getElem?_cons_zero, List.getElem?_cons_succ, bind,
    Except.bind, ne_eq, not_true, if_false, hhigh]
  rfl

/-- Data with another first byte do not begin like an LZMA stream. -/
lemma hasLzmaStart_of_head_ne {b : UInt8} (h : b ≠ 0x5d) (rest : Bytes) :
    hasLzmaStart (b :: rest) = .ok false := by
  have hne : (b :: rest).take 3 ≠ [0x5d, 0, 0] := by
    intro htake
    rw [List.take_succ_cons] at htake
    exact h (List.cons.inj htake).1
  rw [hasLzmaStart, if_pos hne]
  rfl

/-- Data that open a block do not look like an LZMA stream. -/
lemma looksLikeLzma_of_opens {data : Bytes} (h : Opens data) : looksLikeLzma data = .ok false := by
  obtain ⟨high, middle, low, rest, rfl, -⟩ := h
  rw [looksLikeLzma, hasLzmaStart_of_head_ne (by decide)]
  rfl

/-- **Whatever is decoded was recognised.** A stream from which block sorting decodes something
looks like a block-sorted stream and not like an LZMA stream, and it is long enough to see this. -/
theorem decoded_looks_block_sorted {z : Bytes} (h : decompress z ≠ []) :
    looksLikeBzip2 z = .ok true ∧ looksLikeLzma z = .ok false := by
  have hopens := Bzip2.opens_of_decompress_ne_nil h
  exact ⟨looksLikeBzip2_of_opens hopens, looksLikeLzma_of_opens hopens⟩

/-- A block whose row is 93, a byte with which LZMA properties begin. -/
theorem uniform_looks_block_sorted :
    decompress (uniformData 0x5d) ≠ [] ∧ looksLikeBzip2 (uniformData 0x5d) = .ok true ∧
      looksLikeLzma (uniformData 0x5d) = .ok false := by
  have hdecoded : decompress (uniformData 0x5d) ≠ [] := by
    rw [Bzip2.decompress_uniformData (by decide)]
    decide
  exact ⟨hdecoded, decoded_looks_block_sorted hdecoded⟩

/-- The beginning of a stream opens as the stream does. -/
lemma opens_take {data : Bytes} (h : Opens data) {n : Nat} (hn : 4 ≤ n) : Opens (data.take n) := by
  obtain ⟨high, middle, low, rest, rfl, hhigh⟩ := h
  obtain ⟨n, rfl⟩ := Nat.exists_eq_add_of_le' hn
  exact ⟨high, middle, low, rest.take n, rfl, hhigh⟩

/-- **A block-sorted stream is recognised exactly if its fourth byte is not 128.** -/
theorem Packing.ofChunk_eq_iff {chunk : Bytes} (h : Opens chunk) :
    ofChunk chunk = .ok ⟨.bzip2, true⟩ ↔ chunk[3]? ≠ some 0x80 := by
  have hlzma := looksLikeLzma_of_opens h
  have hmethod : methodUnlessLzma chunk = .ok .bzip2 := by
    rw [methodUnlessLzma, looksLikeBzip2_of_opens h]
    rfl
  obtain ⟨high, middle, low, rest, rfl, -⟩ := h
  simp only [ofChunk, hlzma, hmethod, byteAt, List.getElem?_cons_succ, List.getElem?_cons_zero,
    bind, Except.bind, ne_eq, Option.some.injEq]
  by_cases hlow : low = 0x80
  · -- whatever follows, the header is not taken for a solid one
    simp only [hlow, not_true, iff_false, if_true, Bool.false_eq_true, if_false]
    cases looksLikeLzma _ with
    | error e => simp
    | ok lzma =>
      cases lzma with
      | true => simp [pure, Except.pure]
      | false => cases methodUnlessLzma _ <;> simp [pure, Except.pure]
  · simp [hlow, pure, Except.pure]

/-! ## Files -/

/-- A file that was moved is the same file at the new position. -/
lemma File.eq_of_seek {f f' : File} {position : Int} (h : f.seek position = .ok f') :
    f' = { f with pos := position.toNat } := by
  rw [seek] at h
  split_ifs at h
  cases h
  rfl

/-- The packing of an unpacked header is the one that the bytes at its place show. -/
lemma Packing.ofChunk_of_ofFile {f : File} {offset : Int} {u : Unpacked}
    (h : Unpacked.ofFile f offset = .ok u) :
    ofChunk (({ f with pos := offset.toNat } : File).read chunkSize).1 = .ok u.packing := by
  simp only [Unpacked.ofFile, bind, Except.bind] at h
  cases hseek : f.seek offset with
  | error e => simp [hseek] at h
  | ok f' =>
    obtain rfl := File.eq_of_seek hseek
    simp only [hseek] at h
    split at h
    · cases h
    · cases hchunk : ofChunk (({ f with pos := offset.toNat } : File).read chunkSize).1 with
      | error e => simp [hchunk] at h
      | ok packing =>
        simp only [hchunk] at h
        -- both ways of unpacking keep the packing
        repeat' split at h
        all_goals cases h
        all_goals rfl

/-- What is read at the place of a stream is its beginning. -/
lemma File.read_of_content {f : File} {start z rest : Bytes} (h : f.content = start ++ z ++ rest)
    {n : Nat} (hn : n ≤ z.length) :
    (({ f with pos := start.length } : File).read n).1 = z.take n := by
  have hneg : ¬ (n : Int) < 0 := by omega
  simp only [read, File.rest, if_neg hneg, Int.toNat_natCast, h, List.append_assoc]
  rw [List.drop_left, List.take_append_of_le_length hn]

/-- **When a solid block-sorted installer is recognised.** Of a stream from which something is
decoded, the first bytes show a solid block-sorted header exactly if the fourth byte, which is the
low byte of the row of the first block, is not 128; and so does every header that is unpacked from
it. -/
theorem solid_bzip2_recognised_iff {start z rest : Bytes} {f : File} (hz : chunkSize ≤ z.length)
    (hdecoded : decompress z ≠ []) (hf : f.content = start ++ z ++ rest) :
    (Packing.ofChunk (({ f with pos := start.length } : File).read chunkSize).1 =
        .ok ⟨.bzip2, true⟩ ↔ z[3]? ≠ some 0x80) ∧
      ∀ u, Unpacked.ofFile f start.length = .ok u →
        (u.packing = ⟨.bzip2, true⟩ ↔ z[3]? ≠ some 0x80) := by
  have hopens := opens_take (Bzip2.opens_of_decompress_ne_nil hdecoded)
    (show 4 ≤ chunkSize by decide)
  have hiff : Packing.ofChunk (({ f with pos := start.length } : File).read chunkSize).1 =
      .ok ⟨.bzip2, true⟩ ↔ z[3]? ≠ some 0x80 := by
    rw [File.read_of_content hf hz, Packing.ofChunk_eq_iff hopens,
      List.getElem?_take_of_lt (by decide)]
  refine ⟨hiff, fun u hu => ?_⟩
  have hpacking := Packing.ofChunk_of_ofFile hu
  rw [Int.toNat_natCast] at hpacking
  rw [← hiff, hpacking, Except.ok.injEq]

/-- A block whose row is 129, with a byte before it and a byte behind it. -/
theorem solid_bzip2_of_row_129 :
    decompress (uniformData 129) ≠ [] ∧
      Packing.ofChunk ((⟨[0xff] ++ uniformData 129 ++ [0x00], 1⟩ : File).read chunkSize).1 =
        .ok ⟨.bzip2, true⟩ := by
  have hdecoded : decompress (uniformData 129) ≠ [] := by
    rw [Bzip2.decompress_uniformData (by decide)]
    decide
  refine ⟨hdecoded, ?_⟩
  have h := solid_bzip2_recognised_iff (f := ⟨[0xff] ++ uniformData 129 ++ [0x00], 0⟩)
    (by decide) hdecoded rfl
  exact h.1.2 (by decide)

/-- A block whose row is 128 is not recognised: it is taken for a deflated header on its own, which
it is not. -/
theorem solid_bzip2_of_row_128 :
    chunkSize ≤ (uniformData 128).length ∧ decompress (uniformData 128) = List.replicate 130 1 ∧
      Packing.ofChunk ((uniformData 128).take chunkSize) = .ok ⟨.deflate, false⟩ ∧
      ∀ u, Unpacked.ofFile ⟨uniformData 128, 0⟩ 0 ≠ .ok u := by
  refine ⟨by decide, Bzip2.decompress_uniformData (by decide), rfl, fun u hu => ?_⟩
  have herror : (Unpacked.ofFile ⟨uniformData 128, 0⟩ 0).toOption.isNone := by decide +kernel
  rw [hu] at herror
  cases herror

end Nsis
