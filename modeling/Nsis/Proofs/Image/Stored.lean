import Nsis.Installer.Basic
import Nsis.Proofs.Deflate.Trailing
import Nsis.Proofs.Image.Framing

/-!
# Headers that are stored

A deflate stream may hold data as they are: a stored block begins at a byte, with the length of the
data and its complement in two bytes each. A stream that is one such block is inflated to the data,
whatever they are. So an installer whose header is stored is read without regard to the packing, and
what is read depends on the header alone.

## Main definitions

* `Nsis.Deflate.store` — the stream of one stored block.
* `Nsis.Image.stored` — what is extracted from an installer whose header is stored.

## Main results

* `Nsis.Deflate.inflate_store` — a stored block is inflated to its data.
* `Nsis.Frame.extract_installer`, `Nsis.Frame.read_installer` — an installer whose header is stored
  is read.
-/

namespace Nsis

/-! ## Stored blocks -/

namespace Deflate

/-- The stream of one stored block with given data. -/
def store (data : Bytes) : Bytes :=
  1 :: (Bytes.ofValue 2 data.length ++ (Bytes.ofValue 2 (0xffff - data.length) ++ data))

/-- Storing data takes five more bytes. -/
lemma length_store (data : Bytes) : (store data).length = data.length + 5 := by
  simp only [store, List.length_cons, List.length_append, Bytes.length_ofValue]
  omega

/-- A number of 16 bits that begins at a byte is stored in two bytes, the low one first. -/
lemma Source.number_two_bytes (low high : UInt8) (byte : UInt8) (input : Bytes) :
    ∃ byte', Source.number 16 ⟨byte, 0, low :: high :: input⟩ =
      some (low.toNat + 256 * high.toNat, ⟨byte', 0, input⟩) := by
  have hbit : ∀ b : UInt8, (b &&& 1).toNat = b.toNat % 2 := by
    intro b
    rw [UInt8.toNat_and]
    exact Nat.and_one_is_mod _
  have hshift : ∀ b : UInt8, (b >>> 1).toNat = b.toNat / 2 := by
    intro b
    rw [UInt8.toNat_shiftRight]
    exact Nat.shiftRight_eq_div_pow _ _
  have hlow := low.toNat_lt
  have hhigh := high.toNat_lt
  simp only [number, bit, hbit, hshift, Option.some.injEq, Prod.mk.injEq]
  exact ⟨_, by omega, rfl⟩

/-- The same number, from the bytes that are written for it. -/
lemma Source.number_ofValue {n : Nat} (h : n < 0x10000) (byte : UInt8) (input : Bytes) :
    ∃ byte', Source.number 16 ⟨byte, 0, Bytes.ofValue 2 n ++ input⟩ =
      some (n, ⟨byte', 0, input⟩) := by
  obtain ⟨byte', hnumber⟩ :=
    number_two_bytes (UInt8.ofNat (n % 256)) (UInt8.ofNat (n / 256 % 256)) byte input
  have hvalue : (UInt8.ofNat (n % 256)).toNat + 256 * (UInt8.ofNat (n / 256 % 256)).toNat = n := by
    rw [UInt8.toNat_ofNat', UInt8.toNat_ofNat']
    omega
  rw [hvalue] at hnumber
  exact ⟨byte', hnumber⟩

/-- The contents of a stored block are its data. -/
lemma contents_store {data : Bytes} (h : data.length < 0x10000) (byte : UInt8) (live : Nat) :
    ∃ s, contents 0 ⟨byte, live, (store data).tail⟩ #[] = some (s, data.toArray) := by
  obtain ⟨byte₁, hlength⟩ :=
    Source.number_ofValue h 0 (Bytes.ofValue 2 (0xffff - data.length) ++ data)
  obtain ⟨byte₂, hcheck⟩ :=
    Source.number_ofValue (show 0xffff - data.length < 0x10000 by omega) byte₁ data
  have hsum : data.length + (0xffff - data.length) = 0xffff := by
    omega
  rw [contents, stored, Source.align, store, List.tail_cons, hlength]
  simp only [hcheck, hsum, List.take_length]
  exact ⟨{ input := data.drop data.length }, by simp⟩

/-- **A stored block is inflated to its data.** -/
theorem inflate_store {data : Bytes} (h : data.length < 0x10000) :
    inflate (store data) = .ok data := by
  have hfinal : Source.number 1 { input := store data } = some (1, ⟨0, 7, (store data).tail⟩) := rfl
  have hkind : Source.number 2 ⟨0, 7, (store data).tail⟩ = some (0, ⟨0, 5, (store data).tail⟩) :=
    rfl
  obtain ⟨s, hcontents⟩ := contents_store h 0 5
  rw [inflate, blocks_of_contents hfinal hkind hcontents, if_pos rfl]

end Deflate

/-- A stored block is recognised as deflate: a length that begins as LZMA properties do has another
complement. -/
lemma Method.ofBytes_store {data : Bytes} (hlow : 3 ≤ data.length) (hhigh : data.length < 0x10000) :
    ofBytes ((Deflate.store data).take 8) = .ok .deflate := by
  have hlength : 8 ≤ ((Deflate.store data).take 8).length := by
    rw [List.length_take, Deflate.length_store]
    omega
  have hstart : ¬ LzmaStart ((Deflate.store data).take 8) := by
    rintro ⟨hbytes, -⟩
    exact absurd (List.cons.inj hbytes).1 (by decide)
  have hbehind : ¬ LzmaStart (((Deflate.store data).take 8).drop 1) := by
    rintro ⟨hbytes, -⟩
    have hsize := congrArg UInt8.toNat (List.cons.inj hbytes).1
    have hcheck := congrArg UInt8.toNat (List.cons.inj (List.cons.inj (List.cons.inj hbytes).2).2).1
    rw [UInt8.toNat_ofNat'] at hsize hcheck
    change _ = 0x5d at hsize
    change _ = 0 at hcheck
    omega
  have hfirst :
      ¬ (((Deflate.store data).take 8).getD 0 0 = 0x31 ∧
        ((Deflate.store data).take 8).getD 1 0 < 0x0e) := by
    rintro ⟨hbyte, -⟩
    change (1 : UInt8) = 0x31 at hbyte
    exact absurd hbyte (by decide)
  rw [ofBytes, looksLikeLzma_eq hlength, methodUnlessLzma_eq (by omega), if_neg hfirst]
  simp only [hstart, hbehind, and_false, or_false, decide_false]
  rfl

/-! ## Stored installers -/

/-- What is extracted from an installer whose header is stored, behind a first header. -/
def Image.stored (first : FirstHeader) (raw : Bytes) : Except Fault Image := do
  let header ← Header.parse raw
  return ⟨first, header, ⟨.deflate, false⟩, raw, raw.length + 5⟩

namespace Frame

variable {raw rest : Bytes} {h : raw.length < 2 ^ 16}

/-- What is packed in a stored installer is its stored header. -/
lemma packed_installer : (installer raw rest h).packed = Deflate.store raw := by
  rw [installer, Deflate.store, List.append_assoc, List.append_assoc]
  rfl

/-- A header that is stored does not mimic an LZMA stream: if it had the length for this, its second
byte would be the length of the data. -/
lemma not_mimics_installer : ¬ (installer raw rest h).Mimics := by
  rintro ⟨hlength, hbyte, -⟩
  rw [packed_installer, Deflate.length_store] at hlength
  rw [packed_installer] at hbyte
  change UInt8.ofNat (raw.length % 256) = 0 at hbyte
  rw [show raw.length = 88 by omega] at hbyte
  exact absurd hbyte (by decide)

/-- The header is unpacked to what is stored, wherever the file was moved to. -/
lemma ofFile_installer (hlow : 3 ≤ raw.length) {f : File}
    (hf : f.content = (installer raw rest h).content) :
    Unpacked.ofFile f 28 = .ok ⟨raw, raw.length + 5, ⟨.deflate, false⟩⟩ := by
  have hlength : (installer raw rest h).packed.length = raw.length + 5 := by
    rw [packed_installer, Deflate.length_store]
  have hmethod : Method.ofBytes ((installer raw rest h).packed.take 8) = .ok .deflate := by
    rw [packed_installer, Method.ofBytes_store hlow h]
  have hdata : f.dataAt 28 = (installer raw rest h).framed := dataAt_start hf
  have hbehind : f.dataAt (28 + 4) = (installer raw rest h).packed ++ (installer raw rest h).rest :=
    dataAt_behind hf
  have hseek : f.seek 28 = .ok { f with pos := 28 } :=
    (File.seek_natCast f 28).trans (if_pos (by decide))
  have hnext : f.seek (28 + 4) = .ok { f with pos := 32 } :=
    (File.seek_natCast f 32).trans (if_pos (by decide))
  have hdecided : Packing.decided f 28 = .ok ⟨.deflate, false⟩ := by
    rw [decided_eq hdata (by omega) (by omega) hmethod, hseek, if_neg not_mimics_installer]
    rfl
  rw [Unpacked.ofFile_of_framed hdecided, hdata, hbehind, hnext, word_framed, toNat_word_and]
  simp only [Method.share, List.take_left]
  rw [if_neg (by decide), packed_installer, Method.decode, Deflate.inflate_store h,
    Deflate.length_store]
  rfl

/-- **A header that is stored is extracted.** -/
theorem extract_installer (hlow : 3 ≤ raw.length) {f : File}
    (hf : f.content = (installer raw rest h).content) {first : FirstHeader}
    (hfirst : first.dataOffset = 28) : Image.extract f first = Image.stored first raw := by
  rw [Image.extract, hfirst]
  show (Unpacked.ofFile f 28 >>= _) = _
  rw [ofFile_installer hlow hf]
  rfl

/-- The first header of an installer is found at its start. -/
lemma find_installer (raw rest : Bytes) (h : raw.length < 2 ^ 16) :
    ∃ f, FirstHeader.find ⟨(installer raw rest h).content, 0⟩ =
        (some (FirstHeader.ofChunk ((installer raw rest h).content.take FirstHeader.alignment) 0),
          f) ∧
      f.content = (installer raw rest h).content := by
  have hlength : ¬ ((installer raw rest h).content.take FirstHeader.alignment).length <
      FirstHeader.size := by
    have hstart : (installer raw rest h).start.length = FirstHeader.size := rfl
    rw [List.length_take, content, List.length_append, hstart, FirstHeader.alignment,
      FirstHeader.size]
    omega
  have hvalid :
      (FirstHeader.ofChunk ((installer raw rest h).content.take FirstHeader.alignment) 0).isValid =
        true :=
    rfl
  rw [FirstHeader.find, File.rest, List.drop_zero, FirstHeader.search, dif_neg hlength,
    if_pos hvalid]
  exact ⟨_, rfl, rfl⟩

/-- **An installer whose header is stored is read** as the installer with this header. -/
theorem read_installer (hlow : 3 ≤ raw.length) :
    Installer.read ⟨(installer raw rest h).content, 0⟩ =
      Image.stored
        (FirstHeader.ofChunk ((installer raw rest h).content.take FirstHeader.alignment) 0) raw >>=
        Installer.ofImage := by
  obtain ⟨f, hfind, hf⟩ := find_installer raw rest h
  rw [Installer.read, hfind, ← extract_installer hlow hf rfl]

end Frame

end Nsis
