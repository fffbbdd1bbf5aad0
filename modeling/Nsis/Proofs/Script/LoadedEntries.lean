import Nsis.Proofs.Script.Decoding
import Nsis.Proofs.Script.EntryPoints

/-!
# Entries in memory

The entries of an installer are parsed from a slice of its header, and the disassembler reads them
out of memory, word by word. Memory agrees with every block, however the blocks lie, so that both
see the same entries and the same strings, if the database finds the segments where they were told
to be.

## Main definitions

* `Nsis.Entry.words` — the words of an entry.

## Main results

* `Nsis.Script.LoadedFrom.nextWords_eq` — an entry is read out of memory as it was parsed.
* `Nsis.Script.LoadedFrom.symbolsAt_eq` — a string has the symbols that it has in its block.
* `Nsis.Script.Recorded.agrees_with_parsed` — the disassembler sees the entries and the strings that
  the parser sees.
-/

namespace Nsis

/-- The seven words of an entry, as they are stored: a parameter that is less than zero is counted
from `2 ^ 32` down. -/
def Entry.words (e : Entry) : List Int :=
  e.which.toNat :: e.offsets.map (·.toInt % 0x100000000)

namespace Script

/-- A word that is taken as a signed one is stored as it is. -/
lemma toInt_toInt32_emod (w : UInt32) : w.toInt32.toInt % 0x100000000 = w.toNat := by
  have hlt := w.toNat_lt
  rw [toInt_toInt32]
  split_ifs
  · omega
  · omega

/-- The words of an entry are those of its record. -/
lemma words_ofBytes (b : Bytes) : (Entry.ofBytes b).words = (b.words 0 7).map fun w =>
    (w.toNat : Int) := by
  have hoffsets : (ints b 4 6).map (·.toInt % 0x100000000) =
      (b.words 4 6).map fun w => (w.toNat : Int) := by
    rw [ints, Bytes.words, List.map_map, List.map_map]
    apply List.map_congr_left
    intro k _
    exact toInt_toInt32_emod _
  rw [Entry.words, Entry.ofBytes, hoffsets]
  rfl

namespace LoadedFrom

variable {i : Installer} {p : Program}

/-- Memory has the words of every block. -/
lemma dword_eq (h : LoadedFrom i p) {name kind : String} {n : Nat} {content : Bytes}
    (hrow : (name, n, kind) ∈ blockSegments) (hoffset : i.image.blockOffset n ≠ 0)
    (hblock : i.image.block n = .ok content) {a : Nat} (hle : a + 4 ≤ content.length) :
    p.memory.dword (i.image.blockOffset n + a : Nat) = (content.word a).toNat := by
  rw [Memory.dword, h.bytes_eq hrow hoffset hblock hle, Bytes.toNat_word hle]

/-- The address of an entry that the disassembler works with is where the entry stands in the
header. -/
lemma codeAddress_eq {s : Segment} (hsegment : p.segments.lookup "ENTRIES" = some s)
    (hstart : s.start = i.image.blockOffset BlockId.entries) (k : Nat) :
    p.codeAddress k = .ok (i.image.blockOffset BlockId.entries + Entry.size * k : Nat) := by
  rw [Program.codeAddress, Program.segment, hsegment]
  simp only [Except.map, Entry.offsetOf, Except.ok.injEq, hstart]
  push_cast
  rw [Int.mul_comm, Int.add_comm]

/-- **An entry is read out of memory as it was parsed.** The words that follow a cursor at the place
of an entry are the words of this entry. -/
theorem nextWords_eq (h : LoadedFrom i p) (hparsed : i.Parsed)
    (hoffset : i.image.blockOffset BlockId.entries ≠ 0) {k : Nat} {e : Entry}
    (he : i.entries[k]? = some e) {c : Command}
    (hc : c.position = (i.image.blockOffset BlockId.entries + Entry.size * k : Nat)) :
    (c.nextWords p 7).1 = e.words := by
  have hrow : ("ENTRIES", BlockId.entries, "CODE") ∈ blockSegments := by decide
  obtain ⟨block, hblock, hroom⟩ := hparsed.room
  obtain ⟨hk, rfl⟩ : k < i.image.blockNum BlockId.entries ∧
      Entry.ofBytes (i.image.record BlockId.entries Entry.size k) = e := by
    rw [hparsed.entries, List.getElem?_map, Option.map_eq_some_iff] at he
    obtain ⟨k', hk', rfl⟩ := he
    obtain ⟨hk, rfl⟩ := List.getElem?_eq_some_iff.1 hk'
    rw [List.length_range] at hk
    rw [List.getElem_range]
    exact ⟨hk, rfl⟩
  have hinside : Entry.size * k + Entry.size ≤ block.length := by
    rw [← Nat.mul_succ]
    exact (Nat.mul_le_mul_left Entry.size hk).trans hroom
  have hcount : BlockId.entries < i.image.header.blocks.length := by
    rw [hparsed.count]
    decide
  rw [← Image.record_eq hcount hblock hroom hk, words_ofBytes, Command.fst_nextWords, Bytes.words,
    List.map_map]
  apply List.map_congr_left
  intro j hj
  rw [List.mem_range] at hj
  have hplace : c.position + 4 * j =
      (i.image.blockOffset BlockId.entries + (Entry.size * k + 4 * j) : Nat) := by
    rw [hc]
    omega
  rw [hplace, h.dword_eq hrow hoffset hblock (by rw [Entry.size] at *; omega), Function.comp_apply,
    Bytes.word_take _ (by rw [Entry.size]; omega), Bytes.word_drop, Nat.zero_add]

/-- **A string has the symbols that it has in its block**, or decoding it ends in the same fault. -/
theorem symbolsAt_eq (h : LoadedFrom i p) (hoffset : i.image.blockOffset BlockId.strings ≠ 0)
    {strings : Bytes} (hblock : i.image.block BlockId.strings = .ok strings)
    (hsegment : p.segments.lookup "STRINGS" = some ⟨i.image.blockOffset BlockId.strings,
      (i.image.blockOffset BlockId.strings + strings.length : Nat)⟩) {a : Nat}
    (ha : a < strings.length) :
    p.symbolsAt (i.image.blockOffset BlockId.strings + a) =
      (symbolize strings a (.text i.codes.version)).map fun r => some r.1 := by
  have hdecode := h.decodeAt_eq hoffset hblock le_rfl hsegment ha
  rw [Int.natCast_add, List.take_length] at hdecode
  rw [Program.symbolsAt, hdecode]
  cases symbolize strings a (.text i.codes.version) <;> rfl

end LoadedFrom

/-- **The disassembler sees what the parser sees.** The program is any one that has recorded what is
loaded from an installer. If the segment of entries is found where it was told to begin, the seven
words that are read from the address of an entry on are those of the entry with the same number that
was parsed. If the segment of strings is found with the bounds that were told, the string at a place
of it has the same symbols, or ends in the same fault, as the one at this place of the block. The
blocks may lie in any way, and it does not matter how far loading went on behind them. -/
theorem Recorded.agrees_with_parsed {f : File} {i : Installer} {p : Program}
    (hread : Installer.read f = .ok i) (hrecorded : Recorded (loadFile f).events p)
    (hentries : i.image.blockOffset BlockId.entries ≠ 0) :
    (p.FindsStart (loadFile f).events "ENTRIES" →
      ∀ (k : Nat) (e : Entry), i.entries[k]? = some e →
        ∃ address, p.codeAddress k = .ok address ∧
          ∀ c : Command, c.position = address → (c.nextWords p 7).1 = e.words) ∧
    (i.image.blockOffset BlockId.strings ≠ 0 → p.FindsBounds (loadFile f).events "STRINGS" →
      ∃ strings s, i.image.block BlockId.strings = .ok strings ∧
        p.segment "STRINGS" .start = .ok s ∧
        ∀ a : Nat, a < strings.length → p.symbolsAt (s.start + a) =
          (symbolize strings a (.text i.codes.version)).map fun r => some r.1) := by
  have hparsed := Installer.parsed_of_read hread
  rw [loadFile_of_read hread] at hrecorded ⊢
  have hloaded := hrecorded.loadedFrom hparsed.count
  constructor
  · intro hfinds k e he
    have hrow : ("ENTRIES", BlockId.entries, "CODE") ∈ blockSegments := by decide
    obtain ⟨block, hblock, -⟩ := hparsed.room
    obtain ⟨s, hsegment, hstart⟩ := hfinds.exists_lookup hparsed.count hrow hentries hblock
    refine ⟨_, LoadedFrom.codeAddress_eq hsegment hstart k, ?_⟩
    intro c hc
    exact hloaded.nextWords_eq hparsed hentries he hc
  · intro hstrings hfinds
    have hrow : ("STRINGS", BlockId.strings, "DATA") ∈ blockSegments := by decide
    obtain ⟨stop, hblock⟩ := Image.exists_block (i := i.image) (n := BlockId.strings)
      (by rw [hparsed.count]; decide)
    have hsegment := hfinds.lookup_eq hparsed.count hrow hstrings hblock
    refine ⟨_, _, hblock, by rw [Program.segment, hsegment], ?_⟩
    intro a ha
    exact hloaded.symbolsAt_eq hstrings hblock hsegment ha

/-- The unpacked header of an installer with two entries, strings and a table of languages, which
stand one behind the other. -/
def twoEntriesHeader : Bytes :=
  ([0, 0, 0, 0, 0, 300, 2, 356, 0, 360, 0] ++ List.replicate 64 0 ++
    [1, 5, 0xffffffff, 0, 0, 0, 0] ++ [2, 0, 0, 0, 0, 0, 0x80000000] : List UInt32).flatMap
      Bytes.ofWord ++ [0, 0x41, 0x42, 0]

/-- An installer with this header. -/
def twoEntries : File :=
  ⟨(Frame.installer twoEntriesHeader [] (by decide +kernel)).content, 0⟩

/-- In this installer no block lies over another one. Its entries have parameters that are less than
zero, and they are read as they were parsed, as is a string. -/
theorem twoEntries_agrees_with_parsed :
    ∃ i p, Installer.read twoEntries = .ok i ∧ Recorded (loadFile twoEntries).events p ∧
      i.image.blockOffset BlockId.entries ≠ 0 ∧
      i.entries = [⟨1, [5, -1, 0, 0, 0, 0]⟩, ⟨2, [0, 0, 0, 0, 0, -0x80000000]⟩] ∧
      p.FindsStart (loadFile twoEntries).events "ENTRIES" ∧
      (∃ address, p.codeAddress 0 = .ok address ∧
        ((Command.fresh address).nextWords p 7).1 = [1, 5, 0xffffffff, 0, 0, 0, 0]) ∧
      (∃ address, p.codeAddress 1 = .ok address ∧
        ((Command.fresh address).nextWords p 7).1 = [2, 0, 0, 0, 0, 0, 0x80000000]) ∧
      p.FindsBounds (loadFile twoEntries).events "STRINGS" ∧
      ∃ s, p.segment "STRINGS" .start = .ok s ∧
        p.symbolsAt (s.start + 1) = .ok (some [.literal "AB"]) := by
  have hview : (Installer.read twoEntries).toOption.map (fun i =>
      ([i.image.blockOffset BlockId.entries, i.image.blockOffset BlockId.strings], i.entries,
        (i.image.block BlockId.strings).toOption, i.codes.version)) =
          some ([300, 356], [⟨1, [5, -1, 0, 0, 0, 0]⟩, ⟨2, [0, 0, 0, 0, 0, -0x80000000]⟩],
            some [0, 0x41, 0x42, 0], "3") := by
    rw [twoEntries, Frame.read_installer (by decide +kernel)]
    decide +kernel
  obtain ⟨i, hread, hview⟩ := Fault.exists_of_toOption_map hview
  simp only [Prod.mk.injEq, List.cons.injEq, and_true] at hview
  obtain ⟨⟨hentries, hstrings⟩, hentry, hblock, hversion⟩ := hview
  have hoffset : i.image.blockOffset BlockId.entries ≠ 0 := by
    rw [hentries]
    decide
  obtain ⟨p, hrecorded, hbounds⟩ := exists_recorded_loadFile hread
  have hcode := (hbounds ("ENTRIES", 2, "CODE") (by decide)).findsStart
  have htext := hbounds ("STRINGS", 3, "DATA") (by decide)
  obtain ⟨hwords, hsymbols⟩ := Recorded.agrees_with_parsed hread hrecorded hoffset
  refine ⟨i, p, hread, hrecorded, hoffset, hentry, hcode, ?_, ?_, htext, ?_⟩
  · obtain ⟨address, haddress, hnext⟩ := hwords hcode 0 _ (by rw [hentry]; rfl)
    exact ⟨address, haddress, hnext _ (Command.position_fresh address)⟩
  · obtain ⟨address, haddress, hnext⟩ := hwords hcode 1 _ (by rw [hentry]; rfl)
    exact ⟨address, haddress, hnext _ (Command.position_fresh address)⟩
  · obtain ⟨strings, s, hslice, hsegment, hsymbols⟩ := hsymbols (by rw [hstrings]; decide) htext
    obtain rfl : strings = [0, 0x41, 0x42, 0] := by
      rw [hslice] at hblock
      exact Option.some.inj hblock
    refine ⟨s, hsegment, (hsymbols 1 (by decide)).trans ?_⟩
    rw [hversion]
    decide +kernel

end Script

end Nsis
