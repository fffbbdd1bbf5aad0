import Nsis.Proofs.Image.Records
import Nsis.Proofs.Installer.Division

/-!
# What an installer was parsed from

The records of an installer are read from slices of the unpacked header, the settings from its
start. So each of them stands at a place of the header that follows from the offset of its block,
its number and the size of its kind.

## Main definitions

* `Nsis.Image.record` — a record of a block, as it stands in the unpacked header.
* `Nsis.Installer.Parsed` — installers that are made of the records in their headers.

## Main results

* `Nsis.Installer.parsed_of_read` — an installer that was read is made of the records in its header.
-/

namespace Nsis

/-- Record `k` of block `n`, as it stands in the unpacked header, if records of this block have a
given size. -/
def Image.record (i : Image) (n size k : Nat) : Bytes :=
  (i.raw.drop (i.blockOffset n + size * k)).take size

/-- A piece of a block that lies in it is a record of the unpacked header. -/
lemma Image.record_eq {i : Image} {n size k count : Nat} {block : Bytes}
    (hn : n < i.header.blocks.length) (hblock : i.block n = .ok block)
    (hroom : size * count ≤ block.length) (hk : k < count) :
    (block.drop (size * k)).take size = i.record n size k := by
  obtain ⟨stop, hslice⟩ := exists_block hn
  obtain rfl : Signed.slice i.raw (i.blockOffset n) stop = block :=
    Except.ok.inj (hslice.symm.trans hblock)
  have hmul : size * k + size ≤ size * count := by
    rw [← Nat.mul_succ]
    exact Nat.mul_le_mul_left size hk
  rw [Signed.slice_natCast, List.length_take] at hroom
  rw [Signed.slice_natCast, List.drop_take, List.take_take, List.drop_drop,
    Nat.min_eq_left (by omega), record]

namespace Installer

/-- An installer is made of the records in its header: the settings stand at the start of it, and
there are as many pages, sections and entries as their blocks announce. The block of entries has
room for all of them. -/
structure Parsed (i : Installer) : Prop where
  count : i.image.header.blocks.length = Header.blockCount
  size : Header.size ≤ i.image.raw.length
  header : i.image.header = Header.ofBytes (i.image.raw.take Header.size)
  pages : i.pages = (List.range (i.image.blockNum BlockId.pages)).map fun k =>
    Page.ofBytes (i.image.record BlockId.pages Page.size k)
  sections : i.sections = (List.range (i.image.blockNum BlockId.sections)).map fun k =>
    Section.ofBytes (i.image.record BlockId.sections (Section.layout i.unicode).size k)
  entries : i.entries = (List.range (i.image.blockNum BlockId.entries)).map fun k =>
    Entry.ofBytes (i.image.record BlockId.entries Entry.size k)
  room : ∃ block, i.image.block BlockId.entries = .ok block ∧
    Entry.size * i.image.blockNum BlockId.entries ≤ block.length

/-- Records that were read from a block stand in the header. -/
lemma records_eq_map_record {α : Type} {i : Image} {n size count : Nat} {ofBytes : Bytes → α}
    {block : Bytes} {rs : List α} (hn : n < i.header.blocks.length) (hblock : i.block n = .ok block)
    (h : records size ofBytes count block = .ok rs) :
    size * count ≤ block.length ∧
      rs = (List.range count).map fun k => ofBytes (i.record n size k) := by
  rw [records_eq] at h
  split_ifs at h with hroom
  refine ⟨hroom, ?_⟩
  rw [← Except.ok.inj h]
  apply List.map_congr_left
  intro k hk
  rw [Image.record_eq hn hblock hroom (List.mem_range.1 hk)]

/-- **An installer that was read is made of the records in its header.** -/
theorem parsed_of_read {f : File} {i : Installer} (h : Installer.read f = .ok i) : i.Parsed := by
  obtain ⟨hcount, -⟩ := header_of_read h
  obtain ⟨f', first, hextract, hi⟩ := exists_extract_of_read h
  obtain ⟨hsize, hheader⟩ := Image.settings_of_extract hextract
  have hblocks : ∀ n < 8, n < i.image.header.blocks.length := by
    intro n hn
    rw [hcount]
    exact hn
  simp only [ofImage, Fault.bind_eq_ok] at hi
  obtain ⟨strings, -, unicode, -, pageBlock, hpageBlock, pages, hpages, sectionBlock, hsectionBlock,
    sections, hsections, entryBlock, hentryBlock, entries, hentries, hi⟩ := hi
  obtain ⟨-, hpages⟩ := records_eq_map_record (hblocks 0 (by decide)) hpageBlock hpages
  obtain ⟨-, hsections⟩ := records_eq_map_record (hblocks 1 (by decide)) hsectionBlock hsections
  obtain ⟨hroom, hentries⟩ := records_eq_map_record (hblocks 2 (by decide)) hentryBlock hentries
  have hunicode : 24 + Section.nameSize unicode = (Section.layout unicode).size := by
    cases unicode <;> rfl
  rw [hunicode] at hsections
  generalize i.image = image at *
  cases hi
  exact ⟨hcount, hsize, hheader, hpages, hsections, hentries, entryBlock, hentryBlock, hroom⟩

end Installer

end Nsis
