import Mathlib.Data.List.Basic
import Mathlib.Data.List.Range
import Nsis.Proofs.Image.Records
import Nsis.Proofs.Installer.History

/-!
# The division of the header into blocks

The unpacked header is divided by the offsets of the blocks that are present. A block ends where the
next one that is present begins, so that blocks with ascending offsets are adjacent. For the last
one the number of blocks stands in the place of its end. Unless the block begins among the first
bytes of the header, that is before its start, and the bytes from there to the end of the header are
in no block.

## Main definitions

* `Nsis.Image.present`, `Nsis.Image.offsets` — the blocks that are present, and where they begin.
* `Nsis.Image.cut` — the pieces that blocks cut out of data.

## Main results

* `Nsis.Image.flatten_cut` — adjacent pieces make up what lies between the first offset and the end.
* `Nsis.Session.flatten_blocks` — what the blocks of an installer make up.
-/

namespace Nsis

/-- Adjacent slices make up one slice. -/
lemma Signed.slice_append_slice {α : Type} (xs : List α) {i j k : Nat} (hij : i ≤ j) (hjk : j ≤ k) :
    slice xs i j ++ slice xs j k = slice xs i k := by
  simp only [slice_natCast]
  rw [show k - i = (j - i) + (k - j) by omega, List.take_add, List.drop_drop,
    show i + (j - i) = j by omega]

/-- Of ascending numbers the first is not above the last. -/
lemma head_le_getLast {offs : List Nat} (hsorted : offs.Pairwise (· ≤ ·)) {first last : Nat}
    (hfirst : offs.head? = some first) (hlast : offs.getLast? = some last) : first ≤ last := by
  cases offs with
  | nil => cases hfirst
  | cons o offs =>
    cases hfirst
    rcases List.mem_cons.1 (List.mem_of_getLast? hlast) with rfl | hmem
    · exact le_rfl
    · exact (List.pairwise_cons.1 hsorted).1 last hmem

namespace Image

/-- The numbers of the blocks that are present. -/
def present (i : Image) : List Nat :=
  (List.range Header.blockCount).filter fun n => i.blockOffset n ≠ 0

/-- Where the blocks of a list begin that are present. -/
def offsetsOf (blocks : List BlockHeader) : List Nat :=
  (blocks.map (·.offset.toNat)).filter (· ≠ 0)

/-- Where the blocks begin that are present. -/
def offsets (i : Image) : List Nat :=
  offsetsOf i.header.blocks

/-- The pieces that the present ones of blocks cut out of data, if the last one ends at `stop`. -/
def cut (data : Bytes) (stop : Nat) : List BlockHeader → List Bytes
  | [] => []
  | b :: bs =>
    if b.offset.toNat ≠ 0 then
      Signed.slice data b.offset.toNat ((firstOffset? bs).getD stop : Nat) :: cut data stop bs
    else cut data stop bs

/-- The offset of a block that is there comes before those of the blocks behind it. -/
lemma offsetsOf_cons (b : BlockHeader) (bs : List BlockHeader) :
    offsetsOf (b :: bs) =
      if b.offset.toNat ≠ 0 then b.offset.toNat :: offsetsOf bs else offsetsOf bs := by
  simp only [offsetsOf, List.map_cons, List.filter_cons, decide_eq_true_eq]

/-- The first block that is present is the one with the first offset. -/
lemma firstOffset?_eq (blocks : List BlockHeader) :
    firstOffset? blocks = (offsetsOf blocks).head? := by
  induction blocks with
  | nil => rfl
  | cons b bs ih =>
    have hpos : 0 < b.offset ↔ b.offset.toNat ≠ 0 := by
      rw [UInt32.lt_iff_toNat_lt, UInt32.toNat_zero, Nat.pos_iff_ne_zero]
    rw [offsetsOf_cons, firstOffset?, List.find?_cons]
    by_cases hb : b.offset.toNat ≠ 0
    · simp [hpos.2 hb, hb]
    · simp only [hpos, hb, decide_false, if_false]
      exact ih

/-- Blocks that are not present cut out nothing. -/
lemma cut_eq_nil (data : Bytes) (stop : Nat) {blocks : List BlockHeader}
    (h : offsetsOf blocks = []) : cut data stop blocks = [] := by
  induction blocks with
  | nil => rfl
  | cons b bs ih =>
    rw [offsetsOf_cons] at h
    split_ifs at h with hb
    rw [cut, if_neg hb, ih h]

/-- **Adjacent pieces make up what lies between the first offset and the end** of the last piece, or
its start if that is behind the end.

**Proof sketch.** Induction over the blocks. The piece of a block that is present ends at the next
offset, where the pieces of the blocks after it begin. -/
theorem flatten_cut (data : Bytes) (stop : Nat) {blocks : List BlockHeader}
    (hsorted : (offsetsOf blocks).Pairwise (· ≤ ·)) {first last : Nat}
    (hfirst : (offsetsOf blocks).head? = some first)
    (hlast : (offsetsOf blocks).getLast? = some last) :
    (cut data stop blocks).flatten = Signed.slice data first (max last stop : Nat) := by
  induction blocks generalizing first with
  | nil => cases hfirst
  | cons b bs ih =>
    rw [offsetsOf_cons] at hsorted hfirst hlast
    rw [cut, firstOffset?_eq]
    split_ifs at hsorted hfirst hlast ⊢ with hb
    · rw [List.head?_cons, Option.some.injEq] at hfirst
      subst hfirst
      cases hrest : offsetsOf bs with
      | nil =>
        -- the last block that is present
        rw [hrest, List.getLast?_singleton, Option.some.injEq] at hlast
        subst hlast
        rw [cut_eq_nil data stop hrest, List.head?_nil, Option.getD_none, List.flatten_cons,
          List.flatten_nil, List.append_nil, Signed.slice_natCast, Signed.slice_natCast]
        congr 1
        omega
      | cons next offs =>
        rw [List.pairwise_cons, hrest] at hsorted
        rw [hrest, List.getLast?_cons_cons] at hlast
        have hnext := head_le_getLast hsorted.2 List.head?_cons hlast
        have hpieces := ih (hrest ▸ hsorted.2) (by rw [hrest, List.head?_cons]) (hrest ▸ hlast)
        rw [List.flatten_cons, hpieces, List.head?_cons, Option.getD_some]
        exact Signed.slice_append_slice data (hsorted.1 next List.mem_cons_self)
          (hnext.trans (le_max_left _ _))
    · exact ih hsorted hfirst hlast

/-! ## The blocks of an image -/

/-- Block `k` of an image, when `b` is its header and `bs` are those after it. -/
lemma block_of_drop {i : Image} {k : Nat} {b : BlockHeader} {bs : List BlockHeader}
    (h : i.header.blocks.drop k = b :: bs) :
    i.blockOffset k = b.offset.toNat ∧
      i.block k = .ok (Signed.slice i.raw b.offset.toNat
        ((firstOffset? bs).getD i.header.blocks.length : Nat)) := by
  have hget : i.header.blocks[k]? = some b := by
    rw [← List.head?_drop, h, List.head?_cons]
  have hheader : i.blockHeader k = .ok b := by
    rw [blockHeader, Signed.item, Signed.get?, if_pos (by omega), Int.toNat_natCast, hget]
  have hnext : Signed.suffix i.header.blocks ((k : Int) + 1) = bs := by
    rw [Signed.suffix, Signed.place, if_neg (by omega), show ((k : Int) + 1).toNat = k + 1 by omega,
      ← List.drop_drop, h, List.drop_one, List.tail_cons]
  refine ⟨by rw [blockOffset, hget]; rfl, ?_⟩
  rw [block, hheader, blockEnd, hnext]

/-- A block of an image is a slice of its header, which begins at the offset of the block. -/
lemma exists_block {i : Image} {n : Nat} (hn : n < i.header.blocks.length) :
    ∃ stop : Nat, i.block n = .ok (Signed.slice i.raw (i.blockOffset n) stop) := by
  obtain ⟨hoffset, hblock⟩ := block_of_drop (List.drop_eq_getElem_cons hn)
  exact ⟨_, hoffset ▸ hblock⟩

/-- The blocks that are present are the pieces that the block headers cut out. -/
lemma map_block_present {i : Image} (hcount : i.header.blocks.length = Header.blockCount) :
    i.present.map (fun n : Nat => i.block n) =
      (cut i.raw Header.blockCount i.header.blocks).map .ok := by
  suffices ∀ bs k, i.header.blocks.drop k = bs →
      ((List.range' k bs.length).filter fun n => i.blockOffset n ≠ 0).map
        (fun n : Nat => i.block n) =
        (cut i.raw Header.blockCount bs).map .ok by
    rw [present, List.range_eq_range', ← hcount]
    exact hcount ▸ this i.header.blocks 0 List.drop_zero
  intro bs
  induction bs with
  | nil =>
    intro k _
    rfl
  | cons b bs ih =>
    intro k hdrop
    obtain ⟨hoffset, hblock⟩ := block_of_drop hdrop
    have hnext : i.header.blocks.drop (k + 1) = bs := by
      rw [← List.drop_drop, hdrop, List.drop_one, List.tail_cons]
    rw [List.length_cons, List.range'_succ, List.filter_cons, cut, hoffset]
    by_cases hb : b.offset.toNat ≠ 0
    · rw [if_pos (decide_eq_true hb), if_pos hb, List.map_cons, List.map_cons, ih (k + 1) hnext,
        hblock, hcount]
    · rw [if_neg (by simpa using hb), if_neg hb, ih (k + 1) hnext]

end Image

/-- An installer that was read is the one in an image that was extracted. -/
lemma Installer.exists_extract_of_read {f : File} {i : Installer} (h : Installer.read f = .ok i) :
    ∃ f' first, Image.extract f' first = .ok i.image ∧ ofImage i.image = .ok i := by
  simp only [read] at h
  split at h
  · rename_i first hfirst
    obtain ⟨image, hextract, hi⟩ := Fault.bind_eq_ok.1 h
    have himage : i.image = image := by
      simp only [ofImage, Fault.bind_eq_ok] at hi
      obtain ⟨strings, -, unicode, -, block, -, pages, -, block, -, sections, -, block, -, entries,
          -, hi⟩ := hi
      cases hi
      rfl
    exact ⟨_, _, himage ▸ hextract, himage ▸ hi⟩
  · cases h

/-- An installer that was read has the usual number of blocks, and its header has room for the
settings. -/
lemma Installer.header_of_read {f : File} {i : Installer} (h : Installer.read f = .ok i) :
    i.image.header.blocks.length = Header.blockCount ∧ Header.size ≤ i.size := by
  obtain ⟨f', first, hextract, -⟩ := exists_extract_of_read h
  obtain ⟨hsize, hheader⟩ := Image.settings_of_extract hextract
  rw [hheader]
  exact ⟨by simp only [Header.ofBytes, List.length_map, List.length_range], hsize⟩

/-- **What the blocks of an installer make up.** If the blocks that are present have ascending
offsets, none of them beyond the header, they make up the header from the first of their offsets to
the last one, or to the number of blocks if that is larger, however the session came about. This is
all of the header from there on exactly if the last block begins at the end of the header. -/
theorem Session.flatten_blocks {f : File} {s : Session} (hs : Reached f s)
    (hsorted : s.installer.image.offsets.Pairwise (· ≤ ·))
    (hbound : ∀ o ∈ s.installer.image.offsets, o ≤ s.installer.size) {first last : Nat}
    (hfirst : s.installer.image.offsets.head? = some first)
    (hlast : s.installer.image.offsets.getLast? = some last) :
    ∃ pieces : List Bytes,
      s.installer.image.present.map (fun n : Nat => (s.block n).1) = pieces.map .ok ∧
      pieces.flatten = Signed.slice s.installer.image.raw first (max last Header.blockCount : Nat) ∧
      (pieces.flatten = s.installer.image.raw.drop first ↔ last = s.installer.size) := by
  obtain ⟨hcount, hsize⟩ := Installer.header_of_read hs.sound.2
  have hpieces := Image.flatten_cut s.installer.image.raw Header.blockCount hsorted hfirst hlast
  refine ⟨_, ?_, hpieces, ?_⟩
  · simp only [hs.block_eq]
    exact Image.map_block_present hcount
  · have hle := head_le_getLast hsorted hfirst hlast
    have hend := hbound last (List.mem_of_getLast? hlast)
    rw [hpieces, Signed.slice_natCast, List.take_eq_self_iff, List.length_drop]
    simp only [Installer.size, Header.size, Header.blockCount] at hsize hend ⊢
    omega

/-- An installer with strings, and behind them a table of languages. -/
def withTables (tables : Bytes) (h : tables.length < 2 ^ 15) : Frame :=
  .installer
    (List.replicate 28 0 ++ [0x2c, 0x01, 0, 0, 0, 0, 0, 0, 0x39, 0x01, 0, 0] ++
      List.replicate 260 0 ++
    [0, 0x48, 0x24, 0, 3, 0x95, 0x80, 0x2e, 0, 0, 1, 5, 1] ++ tables) [] (by
      simp only [List.length_append, List.length_replicate, List.length_cons, List.length_nil]
      omega)

/-- Without a table its offset is the end of the header, and the blocks make up the header from the
strings on. -/
theorem flatten_blocks_withTables_nil :
    ∃ s, Session.Reached ⟨(withTables [] (by decide)).content, 0⟩ s ∧
      s.installer.image.offsets = [300, 313] ∧
      s.installer.size = 313 ∧
      ∃ pieces : List Bytes,
        s.installer.image.present.map (fun n : Nat => (s.block n).1) = pieces.map .ok ∧
        pieces.flatten = s.installer.image.raw.drop 300 := by
  obtain ⟨s, hs, hoffsets, hsize⟩ :=
    Session.exists_reached (f := ⟨(withTables [] (by decide)).content, 0⟩)
    (p := fun i => i.image.offsets = [300, 313] ∧ i.size = 313) (by decide +kernel)
  obtain ⟨pieces, hpieces, -, hiff⟩ := Session.flatten_blocks hs (by rw [hoffsets]; decide)
    (by rw [hoffsets, hsize]; decide) (show _ = some 300 by rw [hoffsets]; rfl)
    (show _ = some 313 by rw [hoffsets]; rfl)
  exact ⟨s, hs, hoffsets, hsize, pieces, hpieces, hiff.2 hsize.symm⟩

/-- A table that is not empty is in no block. -/
theorem flatten_blocks_withTables_ne :
    ∃ s,
      Session.Reached ⟨(withTables [9, 4, 0, 0, 0xff, 0xff, 0xff, 0xff] (by decide)).content, 0⟩ s ∧
      s.installer.image.offsets = [300, 313] ∧ s.installer.size = 321 ∧
      s.installer.image.present.map (fun n : Nat => (s.block n).1) =
        [.ok [0, 0x48, 0x24, 0, 3, 0x95, 0x80, 0x2e, 0, 0, 1, 5, 1], .ok []] ∧
      s.installer.image.raw.drop 300 =
        [0, 0x48, 0x24, 0, 3, 0x95, 0x80, 0x2e, 0, 0, 1, 5, 1, 9, 4, 0, 0, 0xff, 0xff, 0xff,
          0xff] := by
  obtain ⟨s, hs, hread⟩ := Session.exists_reached
    (f := ⟨(withTables [9, 4, 0, 0, 0xff, 0xff, 0xff, 0xff] (by decide)).content, 0⟩)
    (p := fun i => i.image.offsets = [300, 313] ∧ i.size = 321 ∧
      i.image.present.map (fun n : Nat => i.image.block n) =
        [.ok [0, 0x48, 0x24, 0, 3, 0x95, 0x80, 0x2e, 0, 0, 1, 5, 1], .ok []] ∧
      i.image.raw.drop 300 =
        [0, 0x48, 0x24, 0, 3, 0x95, 0x80, 0x2e, 0, 0, 1, 5, 1, 9, 4, 0, 0, 0xff, 0xff, 0xff, 0xff])
    (by decide +kernel)
  refine ⟨s, hs, ?_⟩
  simp only [hs.block_eq]
  exact hread

end Nsis
