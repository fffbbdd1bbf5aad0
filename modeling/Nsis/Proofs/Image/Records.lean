import Mathlib.Data.List.Basic
import Nsis.Proofs.Image.Stored

/-!
# Records and their bytes

The header and the records of its blocks are made of words, signed and unsigned ones, and of raw
bytes. Nothing of a record is lost when it is read: its fields, written one after the other as they
are stored, are the bytes of the record again. Reading several records fails exactly if the block is
too short for them.

## Main definitions

* `Nsis.Layout` — a kind of records: their size, how one is read, and how it is written back.
* `Nsis.Entry.layout`, `Nsis.Page.layout`, `Nsis.Section.layout`, `Nsis.Header.layout` — the kinds
  of records.
* `Nsis.Layout.Lossless` — an outcome of reading records from which nothing is lost.

## Main results

* `Nsis.records_eq` — the outcome of reading records, for any number of them.
* `Nsis.Layout.lossless` — no kind of records loses anything.
* `Nsis.parsing_is_lossless` — entries, pages, sections and headers are read without a loss.
-/

namespace Nsis

/-- Pieces of one size, each written where it stands in data, make up the start of the data. -/
lemma flatMap_range_eq_take {data : Bytes} (size n : Nat) {piece : Nat → Bytes}
    (h : ∀ k < n, piece k = (data.drop (size * k)).take size) :
    (List.range n).flatMap piece = data.take (size * n) := by
  induction n with
  | zero => simp
  | succ n ih =>
    have hbefore := ih fun k hk => h k (by omega)
    rw [List.range_succ, List.flatMap_append, hbefore, List.flatMap_singleton, h n (by omega),
      Nat.mul_succ, List.take_add]

/-! ## Words -/

namespace Bytes

/-- The four bytes of a signed word. -/
def ofInt (n : Int32) : Bytes :=
  ofWord n.toUInt32

/-- The `n` words from offset `i` on. -/
def words (b : Bytes) (i n : Nat) : List UInt32 :=
  (List.range n).map fun k => b.word (i + 4 * k)

/-- A byte string is the one of its length for the number that it denotes. -/
lemma ofValue_value (b : Bytes) : ofValue b.length (value b) = b := by
  induction b with
  | nil => rfl
  | cons x b ih =>
    have hlt := x.toNat_lt
    have hlow : (x.toNat + 256 * value b) % 256 = x.toNat := by omega
    have hhigh : (x.toNat + 256 * value b) / 256 = value b := by omega
    rw [List.length_cons, value, ofValue, hlow, hhigh, ih, UInt8.ofNat_toNat]

/-- Four bytes denote a number of 32 bits. -/
lemma value_lt {b : Bytes} (h : b.length = 4) : value b < 0x100000000 := by
  obtain ⟨w, x, y, z, rfl⟩ := List.length_eq_four.1 h
  have hw := w.toNat_lt
  have hx := x.toNat_lt
  have hy := y.toNat_lt
  have hz := z.toNat_lt
  simp only [value]
  omega

/-- The number of a word is the one that its four bytes denote. -/
lemma toNat_word {b : Bytes} {i : Nat} (h : i + 4 ≤ b.length) :
    (b.word i).toNat = value ((b.drop i).take 4) := by
  apply UInt32.toNat_ofNat_of_lt'
  apply value_lt
  rw [List.length_take, List.length_drop]
  omega

/-- The bytes of the word at an offset are the four bytes there. -/
lemma ofWord_word {b : Bytes} {i : Nat} (h : i + 4 ≤ b.length) :
    ofWord (b.word i) = (b.drop i).take 4 := by
  have hlen : ((b.drop i).take 4).length = 4 := by
    rw [List.length_take, List.length_drop]
    omega
  rw [ofWord, toNat_word h]
  nth_rewrite 1 [← hlen]
  exact ofValue_value _

/-- A word behind some bytes is the word further on. -/
lemma word_drop (b : Bytes) (i j : Nat) : word (b.drop i) j = b.word (i + j) := by
  rw [word, word, List.drop_drop]

/-- A word is that of the first bytes, if it is among them. -/
lemma word_take (b : Bytes) {i n : Nat} (h : i + 4 ≤ n) : word (b.take n) i = b.word i := by
  rw [word, word, List.drop_take, List.take_take, Nat.min_eq_left (by omega)]

/-- **Words that are written back** are the bytes that they were read from. -/
lemma flatMap_words {b : Bytes} {i n : Nat} (h : i + 4 * n ≤ b.length) :
    (b.words i n).flatMap ofWord = (b.drop i).take (4 * n) := by
  rw [words, List.flatMap_map]
  apply flatMap_range_eq_take
  intro k hk
  rw [List.drop_drop]
  exact ofWord_word (by omega)

/-- Signed words are written back as the unsigned ones at the same place. -/
lemma flatMap_ints {b : Bytes} {i n : Nat} (h : i + 4 * n ≤ b.length) :
    (ints b i n).flatMap ofInt = (b.drop i).take (4 * n) := by
  rw [← flatMap_words h, ints, words, List.flatMap_map, List.flatMap_map]
  rfl

end Bytes

/-! ## Reading records -/

/-- **The outcome of reading records.** There are as many as the block has room for; if that is not
enough, what is left of the block is the buffer that was too small for one more. -/
lemma records_eq {α : Type} (size : Nat) (ofBytes : Bytes → α) (n : Nat) (block : Bytes) :
    records size ofBytes n block =
      if size * n ≤ block.length then
        .ok ((List.range n).map fun k => ofBytes ((block.drop (size * k)).take size))
      else .error (.shortRecord size (block.length % size)) := by
  induction n generalizing block with
  | zero => simp [records]
  | succ n ih =>
    have hlen : (block.take size).length = min size block.length := List.length_take
    have hmul : size * (n + 1) = size * n + size := Nat.mul_succ size n
    rw [records]
    by_cases hroom : size ≤ block.length
    · rw [if_neg (by omega), ih, List.length_drop]
      by_cases hrest : size * n ≤ block.length - size
      · rw [if_pos hrest, if_pos (by omega), List.range_succ_eq_map, List.map_cons, List.map_map]
        simp only [Nat.mul_zero, List.drop_zero, List.drop_drop]
        congr 2
        refine List.map_congr_left fun k _ => ?_
        rw [Function.comp_apply, Nat.mul_succ, Nat.add_comm]
      · rw [if_neg hrest, if_neg (by omega), ← Nat.mod_eq_sub_mod hroom]
    · rw [if_pos (by omega), if_neg (by omega), Nat.mod_eq_of_lt (by omega)]

/-- A kind of records: their size, how one is read from its bytes, and how it is written back. What
is read from bytes of the right size is written back as these bytes. -/
structure Layout (α : Type) where
  size : Nat
  ofBytes : Bytes → α
  toBytes : α → Bytes
  toBytes_ofBytes : ∀ b : Bytes, b.length = size → toBytes (ofBytes b) = b

namespace Layout

variable {α : Type}

/-- An outcome of reading `n` records from a block: they can be read exactly if the block has room
for them, and written one after the other they are the start of the block. A negative number of
records is none. -/
structure Lossless (l : Layout α) (block : Bytes) (n : Int) (outcome : Except Fault (List α)) :
    Prop where
  ok_iff : (∃ rs, outcome = .ok rs) ↔ n ≤ 0 ∨ n * l.size ≤ block.length
  fault : ¬ (n ≤ 0 ∨ n * l.size ≤ block.length) →
    outcome = .error (.shortRecord l.size (block.length % l.size))
  length : ∀ rs, outcome = .ok rs → rs.length = max n 0
  bytes : ∀ rs, outcome = .ok rs → rs.flatMap l.toBytes = block.take (l.size * n.toNat)

/-- There is room for a number of records exactly if it is not positive or their sizes add up to no
more than the block. -/
lemma room_iff (l : Layout α) (block : Bytes) (n : Int) :
    l.size * n.toNat ≤ block.length ↔ n ≤ 0 ∨ n * l.size ≤ block.length := by
  by_cases hn : n ≤ 0
  · simp [hn, Int.toNat_of_nonpos hn]
  · obtain ⟨m, rfl⟩ := Int.eq_ofNat_of_zero_le (show 0 ≤ n by omega)
    rw [Int.toNat_natCast, or_iff_right hn, Nat.mul_comm]
    exact_mod_cast Iff.rfl

/-- **Reading records loses nothing.**

**Proof sketch.** The records that are read are those of the pieces of the block, and each is
written back as its piece. -/
theorem lossless (l : Layout α) (block : Bytes) (n : Int) :
    l.Lossless block n (records l.size l.ofBytes n.toNat block) := by
  have hroom := l.room_iff block n
  rw [records_eq]
  by_cases h : l.size * n.toNat ≤ block.length
  · rw [if_pos h]
    refine ⟨⟨fun _ => hroom.1 h, fun _ => ⟨_, rfl⟩⟩,
      fun hshort => absurd (hroom.1 h) hshort, ?_, ?_⟩
    · rintro rs ⟨⟩
      rw [List.length_map, List.length_range]
      omega
    · rintro rs ⟨⟩
      rw [List.flatMap_map]
      apply flatMap_range_eq_take
      intro k hk
      apply l.toBytes_ofBytes
      have hmul : l.size * k + l.size ≤ l.size * n.toNat := by
        rw [← Nat.mul_succ]
        exact Nat.mul_le_mul_left l.size hk
      rw [List.length_take, List.length_drop]
      omega
  · rw [if_neg h]
    refine ⟨⟨?_, fun hok => absurd (hroom.2 hok) h⟩, fun _ => rfl, ?_, ?_⟩
    · rintro ⟨rs, ⟨⟩⟩
    · rintro rs ⟨⟩
    · rintro rs ⟨⟩

end Layout

/-! ## The kinds of records -/

section Layouts

open Bytes

/-- The bytes of an entry. -/
def Entry.toBytes (e : Entry) : Bytes :=
  ofWord e.which ++ e.offsets.flatMap ofInt

/-- Entries: an opcode and six signed parameters. -/
def Entry.layout : Layout Entry where
  size := 28
  ofBytes := ofBytes
  toBytes := toBytes
  toBytes_ofBytes b h := by
    rw [toBytes, ofBytes, ofWord_word (by omega), flatMap_ints (by omega), List.drop_zero,
      ← List.take_add]
    exact List.take_of_length_le (by omega)

/-- The bytes of a page; the last of its parameters is stored first. -/
def Page.toBytes (p : Page) : Bytes :=
  [p.dialog, p.windowProc].flatMap ofWord ++
    [p.preFunc, p.showFunc, p.leaveFunc, p.flags, p.caption, p.back, p.next, p.clickNext,
      p.cancel].flatMap ofInt ++
    p.params.reverse.flatMap ofInt

/-- Pages: two unsigned words, nine signed ones, and five signed parameters. -/
def Page.layout : Layout Page where
  size := 64
  ofBytes := ofBytes
  toBytes := toBytes
  toBytes_ofBytes b h := by
    have hwords : [b.word 0, b.word 4].flatMap ofWord = b.take 8 :=
      flatMap_words (i := 0) (n := 2) (by omega)
    have hints : [b.int 8, b.int 12, b.int 16, b.int 20, b.int 24, b.int 28, b.int 32, b.int 36,
        b.int 40].flatMap ofInt =
        (b.drop 8).take 36 := flatMap_ints (i := 8) (n := 9) (by omega)
    rw [toBytes, ofBytes]
    simp only [List.reverse_reverse]
    rw [hwords, hints, flatMap_ints (by omega), ← List.take_add, ← List.take_add]
    exact List.take_of_length_le (by omega)

/-- The bytes of a section. -/
def Section.toBytes (s : Section) : Bytes :=
  [s.namePtr, s.installTypes, s.flags, s.code, s.codeSize, s.sizeKb].flatMap ofWord ++ s.name

/-- Sections: six unsigned words and a name of fixed size. -/
def Section.layout (unicode : Bool) : Layout Section where
  size := if unicode then 2072 else 1048
  ofBytes := ofBytes
  toBytes := toBytes
  toBytes_ofBytes b h := by
    have hlen : 24 ≤ b.length := by
      rw [h]
      split_ifs <;> decide
    have hwords : [b.word 0, b.word 4, b.word 8, b.word 12, b.word 16, b.word 20].flatMap ofWord =
        b.take 24 :=
      flatMap_words (i := 0) (n := 6) (by omega)
    rw [toBytes, ofBytes]
    simp only [hwords]
    exact List.take_append_drop 24 b

/-- The bytes of a block header. -/
def BlockHeader.toBytes (b : BlockHeader) : Bytes :=
  ofWord b.offset ++ ofWord b.num

/-- The bytes of the settings. -/
def Header.toBytes (h : Header) : Bytes :=
  ofWord h.flags ++ h.blocks.flatMap BlockHeader.toBytes ++
    [h.regRootKey, h.regKeyPtr, h.regValuePtr, h.bgColor1, h.bgColor2, h.bgTextColor, h.lbBg,
      h.lbFg, h.langTableSize, h.licenseBg].flatMap ofWord ++
    [h.onInit, h.onInstSuccess, h.onInstFailed, h.onUserAbort, h.onGuiInit, h.onGuiEnd,
      h.onMouseOverSection, h.onVerifyInstDir, h.onSelChange, h.onRebootFailed].flatMap ofInt ++
    h.installTypes.flatMap ofInt ++ [h.installDirPtr, h.installDirAppend].flatMap ofWord ++
    [h.uninstChild, h.uninstCmd, h.winInit].flatMap ofInt

/-- The headers of blocks are pairs of words. -/
lemma flatMap_blocks {b : Bytes} (h : 68 ≤ b.length) :
    (Header.ofBytes b).blocks.flatMap BlockHeader.toBytes =
    (b.drop 4).take 64 := by
  rw [Header.ofBytes, List.flatMap_map]
  apply flatMap_range_eq_take 8 8
  intro k hk
  have hnum : ofWord (b.word (8 + 8 * k)) = ((b.drop (4 + 8 * k)).drop 4).take 4 := by
    rw [List.drop_drop, show 4 + 8 * k + 4 = 8 + 8 * k by omega]
    exact ofWord_word (by omega)
  rw [List.drop_drop, BlockHeader.toBytes, ofWord_word (by omega), hnum, ← List.take_add]

/-- The settings: words, eight headers of blocks, and 33 install types. -/
def Header.layout : Layout Header where
  size := 300
  ofBytes := ofBytes
  toBytes := toBytes
  toBytes_ofBytes b h := by
    have hblocks := flatMap_blocks (b := b) (by omega)
    have hsettings : [b.word 68, b.word 72, b.word 76, b.word 80, b.word 84, b.word 88, b.word 92,
        b.word 96, b.word 100, b.word 104].flatMap ofWord = (b.drop 68).take 40 :=
          flatMap_words (i := 68) (n := 10) (by omega)
    have hcallbacks : [b.int 108, b.int 112, b.int 116, b.int 120, b.int 124, b.int 128, b.int 132,
        b.int 136, b.int 140, b.int 144].flatMap ofInt = (b.drop 108).take 40 :=
          flatMap_ints (i := 108) (n := 10) (by omega)
    have htypes : (ints b 148 installTypeCount).flatMap ofInt = (b.drop 148).take 132 :=
      flatMap_ints (i := 148) (n := 33) (by omega)
    have hdir : [b.word 280, b.word 284].flatMap ofWord = (b.drop 280).take 8 :=
      flatMap_words (i := 280) (n := 2) (by omega)
    have huninst : [b.int 288, b.int 292, b.int 296].flatMap ofInt = (b.drop 288).take 12 :=
      flatMap_ints (i := 288) (n := 3) (by omega)
    rw [toBytes, hblocks, ofBytes, ofWord_word (by omega), hsettings, hcallbacks, htypes, hdir,
      huninst, List.drop_zero, ← List.take_add, ← List.take_add, ← List.take_add, ← List.take_add,
      ← List.take_add, ← List.take_add]
    exact List.take_of_length_le (by omega)

end Layouts

/-! ## Parsing -/

/-- The settings of an unpacked header are read if it is long enough for them. -/
lemma Image.extract_eq {f : File} {first : FirstHeader} {u : Unpacked}
    (h : Unpacked.ofFile f first.dataOffset = .ok u) :
    Image.extract f first =
      if Header.size ≤ u.data.length then
        .ok ⟨first, Header.ofBytes (u.data.take Header.size), u.packing, u.data, u.size⟩
      else .error (.shortRecord Header.size u.data.length) := by
  rw [extract, h]
  simp only [bind, Except.bind, Header.parse]
  by_cases hlen : u.data.length < Header.size
  · rw [if_pos hlen, if_neg (by omega)]
  · rw [if_neg hlen, if_pos (by omega)]
    rfl

/-- The settings of an image stand at the start of its unpacked header. -/
lemma Image.settings_of_extract {f : File} {first : FirstHeader} {i : Image}
    (h : Image.extract f first = .ok i) :
    Header.size ≤ i.raw.length ∧ i.header = Header.ofBytes (i.raw.take Header.size) := by
  obtain ⟨u, hu, -⟩ := Fault.bind_eq_ok.1 h
  rw [extract_eq hu] at h
  split_ifs at h with hsize
  cases h
  exact ⟨hsize, rfl⟩

/-- **Nothing is lost when an installer is parsed.** Entries, pages and sections are read from a
block exactly if it has room for them, and written back they are the start of the block. The
settings are read from an unpacked header exactly if it is long enough for them, and written back
they are its start. -/
theorem parsing_is_lossless (block : Bytes) (n : Int) (f : File) (first : FirstHeader) :
    Entry.layout.Lossless block n (Entry.parse block n) ∧
      Page.layout.Lossless block n (Page.parse block n) ∧
      (∀ unicode, (Section.layout unicode).Lossless block n (Section.parse block n unicode)) ∧
      ∀ u, Unpacked.ofFile f first.dataOffset = .ok u →
        (300 ≤ u.data.length → ∃ i, Image.extract f first = .ok i ∧ i.raw = u.data ∧
          i.header.blocks.length = 8 ∧
          i.header.installTypes.length = 33 ∧ i.header.toBytes = u.data.take 300) ∧
        (u.data.length < 300 →
          Image.extract f first = .error (.shortRecord 300 u.data.length)) := by
  have hsections : ∀ unicode,
      (Section.layout unicode).Lossless block n (Section.parse block n unicode) := by
    intro unicode
    cases unicode with
    | false => exact (Section.layout false).lossless block n
    | true => exact (Section.layout true).lossless block n
  refine ⟨Entry.layout.lossless block n, Page.layout.lossless block n, hsections, ?_⟩
  intro u hu
  have hextract := Image.extract_eq hu
  constructor
  · intro hlen
    rw [if_pos (show Header.size ≤ u.data.length from hlen)] at hextract
    refine ⟨_, hextract, rfl, ?_, ?_, ?_⟩
    · rw [Header.ofBytes, List.length_map, List.length_range, Header.blockCount]
    · rw [Header.ofBytes, ints, List.length_map, List.length_range, Header.installTypeCount]
    · exact Header.layout.toBytes_ofBytes _ (List.length_take_of_le hlen)
  · intro hshort
    rwa [if_neg (show ¬ Header.size ≤ u.data.length from Nat.not_le.2 hshort)] at hextract

/-- An installer whose settings have all bits set. -/
def allOnes : Frame :=
  .installer (List.replicate Header.size 0xff) [] (by rw [List.length_replicate]; decide)

/-- Two entries with all bits set are read from a block that has no room for a third one, and so are
settings. -/
theorem parsing_of_allOnes :
    (∃ entries, Entry.parse (List.replicate 60 0xff) 2 = .ok entries ∧ entries.length = 2 ∧
      entries.flatMap Entry.toBytes = List.replicate 56 0xff) ∧
      Entry.parse (List.replicate 60 0xff) 3 = .error (.shortRecord 28 4) ∧
      ∃ i, Image.extract ⟨allOnes.content, 0⟩ (FirstHeader.ofChunk allOnes.content 0) = .ok i ∧
        i.header.toBytes = List.replicate 300 0xff := by
  obtain ⟨htwo, -, -, hheader⟩ :=
    parsing_is_lossless (List.replicate 60 0xff) 2 ⟨allOnes.content, 0⟩
    (FirstHeader.ofChunk allOnes.content 0)
  obtain ⟨hthree, -⟩ :=
    parsing_is_lossless (List.replicate 60 0xff) 3 ⟨[], 0⟩ (FirstHeader.ofChunk [] 0)
  refine ⟨?_, hthree.fault (by decide), ?_⟩
  · obtain ⟨entries, hentries⟩ := htwo.ok_iff.2 (by decide)
    have hlength := htwo.length entries hentries
    exact ⟨entries, hentries, by omega, htwo.bytes entries hentries⟩
  · have hunpacked : Unpacked.ofFile ⟨allOnes.content, 0⟩ 28 =
        .ok ⟨List.replicate 300 0xff, 305, ⟨.deflate, false⟩⟩ := by
      rw [Frame.ofFile_installer (by rw [List.length_replicate]; decide) rfl, List.length_replicate]
      rfl
    obtain ⟨i, hi, -, -, -, hbytes⟩ := (hheader _ hunpacked).1 (by rw [List.length_replicate])
    exact ⟨i, hi, by rw [hbytes, List.take_replicate, Nat.min_self]⟩

end Nsis
