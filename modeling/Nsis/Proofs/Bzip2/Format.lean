import Mathlib.Data.List.Basic
import Nsis.Proofs.Bzip2.BitQueue
import Nsis.Proofs.Bzip2.CanonicalCode
import Nsis.Proofs.Bzip2.Rotations

/-!
# The format of the data

A block is written as a row number, a map of the bytes that occur in it, the selectors and code
lengths of its code tables, and the coded symbols of its last column. What can be chosen is chosen
by the writer: the code lengths, subject to Kraft's inequality, and the table for each group of
symbols.

## Main definitions

* `Nsis.Bzip2.moveToFront` — items by their positions in a list, where each moves to the front.
* `Nsis.Bzip2.symbols` — the symbols of the last column of some contents.
* `Nsis.Bzip2.Block` — what a writer chooses for a block.
* `Nsis.Bzip2.Block.bits`, `Nsis.Bzip2.serialise` — the bits of a block and of all data.
* `Nsis.Bzip2.pack` — the bytes of a list of bits.

## Main results

* `Nsis.Bzip2.undoRanks_moveToFront` — the positions of items determine them.
* `Nsis.Bzip2.value_runDigits` — the digits of a run determine its length.
* `Nsis.Bzip2.length_symbols_le` — there is at most one symbol for a byte, and one for the end.
* `Nsis.Bzip2.Block.exists_of_contents` — all contents can be written.
* `Nsis.Bzip2.toBits_pack` — packed bits can be read again.
-/

namespace Nsis.Bzip2

/-! ## Symbols -/

/-- The positions of some items in a list, when each of them moves to the front of the list. -/
def moveToFront {α : Type} [DecidableEq α] : (order items : List α) → List Nat
  | _, [] => []
  | order, x :: items => order.idxOf x :: moveToFront (x :: order.erase x) items

/-- The length of a run in digits that count 1 and 2, the digit of lowest weight first. -/
def runDigits : Nat → List Nat
  | 0 => []
  | n + 1 => n % 2 :: runDigits (n / 2)

/-- The symbols for some positions, behind a run of `zeros` positions that are zero. Other positions
are coded one higher; `last` ends the block. -/
def symbolsFor (last : Nat) : (zeros : Nat) → List Nat → List Nat
  | zeros, [] => runDigits zeros ++ [last]
  | zeros, 0 :: ranks => symbolsFor last (zeros + 1) ranks
  | zeros, (r + 1) :: ranks => runDigits zeros ++ (r + 2) :: symbolsFor last 0 ranks

/-- The bytes that occur in some contents, ascending. -/
def usedBytes (contents : Bytes) : List UInt8 :=
  ((List.range 256).map UInt8.ofNat).filter (· ∈ contents)

/-- The symbols of the last column of some contents. -/
def symbols (contents : Bytes) : List Nat :=
  symbolsFor ((usedBytes contents).length + 1) 0
    (moveToFront (usedBytes contents) (lastColumn contents))

/-! ## Bits -/

/-- All sixteen ranges of sixteen bytes each. -/
def ranges : List UInt8 :=
  (List.range 16).map UInt8.ofNat

/-- Whether a byte of a range occurs. -/
def occurs (contents : Bytes) (range : UInt8) : Bool :=
  (Phase.bytesOfRange range).any (· ∈ contents)

/-- The ranges that occur, and the bytes of these ranges that do. -/
def mapBits (contents : Bytes) : List Bool :=
  ranges.map (occurs contents) ++
    ((ranges.filter (occurs contents)).flatMap Phase.bytesOfRange).map fun b =>
      decide (b ∈ contents)

/-- A number of ones, and a zero. -/
def unary (n : Nat) : List Bool :=
  List.replicate n true ++ [false]

/-- From one code length to the next: steps up or down, and a zero. -/
def stepBits (length next : Nat) : List Bool :=
  (List.replicate (next - length) [true, false]).flatten ++
    (List.replicate (length - next) [true, true]).flatten ++ [false]

/-- The steps through a list of code lengths. -/
def lengthBits : (length : Nat) → List Nat → List Bool
  | _, [] => []
  | length, next :: lengths => stepBits length next ++ lengthBits next lengths

/-- The code lengths of a table: the first one, and the steps from there. -/
def tableBits (lengths : List Nat) : List Bool :=
  bitsOf 5 (lengths.headD 0) ++ lengthBits (lengths.headD 0) lengths

/-- The code lengths of the table that symbol `i` uses. -/
def codeAt (codes : List (List Nat)) (selectors : List Nat) (i : Nat) : List Nat :=
  codes.getD (selectors.getD (i / groupSize) 0) []

/-- The codes of the symbols from symbol `i` on. -/
def symbolBits (codes : List (List Nat)) (selectors : List Nat) : (i : Nat) → List Nat → List Bool
  | _, [] => []
  | i, s :: ss =>
    CodeTable.codeword (codeAt codes selectors i) s ++ symbolBits codes selectors (i + 1) ss

/-- What a writer chooses for a block. -/
structure Block where
  /-- The contents. -/
  contents : Bytes
  contents_ne : contents ≠ []
  length_contents : contents.length ≤ maxBlock
  /-- What the contents stand for. -/
  expansion : Bytes
  expand_contents : expand contents = some expansion
  /-- A row that is the contents themselves. -/
  origin : Nat
  row_origin : (rows contents)[origin]? = some contents
  /-- The code lengths of each table. -/
  codes : List (List Nat)
  length_codes : 2 ≤ codes.length ∧ codes.length ≤ 6
  length_code : ∀ lengths ∈ codes, lengths.length = (usedBytes contents).length + 2
  code_range : ∀ lengths ∈ codes, ∀ n ∈ lengths, 1 ≤ n ∧ n ≤ maxCodeLength
  code_kraft : ∀ lengths ∈ codes, CodeTable.Kraft lengths
  /-- The table for each group of symbols. -/
  selectors : List Nat
  selector_lt : ∀ s ∈ selectors, s < codes.length
  length_selectors : selectors.length ≤ 32767
  selectors_enough : (symbols contents).length ≤ groupSize * selectors.length

/-- The bits of a block before its symbols: its mark, its row, the map of its bytes, the numbers of
its tables and selectors, the selectors, and the code lengths of the tables. -/
def Block.headBits (b : Block) : List Bool :=
  bitsOf 8 blockMark ++ (bitsOf 24 b.origin ++ (mapBits b.contents ++
    ((bitsOf 3 b.codes.length ++ bitsOf 15 b.selectors.length) ++
      ((moveToFront (List.range b.codes.length) b.selectors).flatMap unary ++
        b.codes.flatMap tableBits))))

/-- The bits of a block. -/
def Block.bits (b : Block) : List Bool :=
  b.headBits ++ symbolBits b.codes b.selectors 0 (symbols b.contents)

/-- The bits of some blocks and of the end of the data. -/
def serialise (blocks : List Block) : List Bool :=
  blocks.flatMap Block.bits ++ bitsOf 8 endMark

/-- The bytes of a list of bits, of which the last one is filled with zeros. -/
def pack (bits : List Bool) : Bytes :=
  match bits with
  | [] => []
  | b :: bs =>
    UInt8.ofNat (ofBits (((b :: bs).take 8).rightpad 8 false)) :: pack (bs.drop 7)
termination_by bits.length
decreasing_by simp only [List.length_drop, List.length_cons]; omega

/-! ## Positions and runs -/

/-- Ranks are below the number of items in the order. -/
lemma idxOf_lt_of_mem_moveToFront {α : Type} [DecidableEq α] {order items : List α}
    (h : ∀ x ∈ items, x ∈ order) : ∀ r ∈ moveToFront order items, r < order.length := by
  induction items generalizing order with
  | nil => simp [moveToFront]
  | cons x items ih =>
    have hx : x ∈ order := h x List.mem_cons_self
    have hperm := List.perm_cons_erase hx
    intro r hr
    rcases List.mem_cons.1 hr with rfl | hr
    · exact List.idxOf_lt_length_iff.2 hx
    · rw [hperm.length_eq]
      exact ih (fun y hy => hperm.mem_iff.1 (h y (List.mem_cons_of_mem _ hy))) r hr

/-- The positions of the first items. -/
lemma take_moveToFront {α : Type} [DecidableEq α] (order items : List α) (k : Nat) :
    (moveToFront order items).take k = moveToFront order (items.take k) := by
  induction items generalizing order k with
  | nil => simp [moveToFront]
  | cons x items ih =>
    cases k with
    | zero => simp [moveToFront]
    | succ k => simp [moveToFront, ih]

/-- **The positions of items determine them.** -/
lemma undoRanks_moveToFront {order items : List Nat} (h : ∀ x ∈ items, x ∈ order) :
    Phase.undoRanks order (moveToFront order items) = some items := by
  induction items generalizing order with
  | nil => rfl
  | cons x items ih =>
    have hx : x ∈ order := h x List.mem_cons_self
    have hrest : ∀ y ∈ items, y ∈ x :: order.erase x := fun y hy =>
      (List.perm_cons_erase hx).mem_iff.1 (h y (List.mem_cons_of_mem _ hy))
    have hget : order[order.idxOf x]? = some x := List.getElem?_idxOf hx
    simp only [moveToFront, Phase.undoRanks, hget, List.eraseIdx_idxOf_eq_erase]
    simp [ih hrest]

/-- What the digits of a run count. -/
def digitsValue : List Nat → Nat
  | [] => 0
  | d :: ds => d + 1 + 2 * digitsValue ds

/-- **The digits of a run count its length.** -/
lemma value_runDigits (n : Nat) : digitsValue (runDigits n) = n := by
  fun_induction runDigits n with
  | case1 => rfl
  | case2 n ih =>
    rw [digitsValue, ih]
    omega

/-- Digits are at least worth their number of places. -/
lemma two_pow_length_le (ds : List Nat) : 2 ^ ds.length ≤ digitsValue ds + 1 := by
  induction ds with
  | nil => simp [digitsValue]
  | cons d ds ih =>
    rw [List.length_cons, Nat.pow_succ, digitsValue]
    omega

/-- The digits of a run are zero and one. -/
lemma lt_two_of_mem_runDigits {n d : Nat} (h : d ∈ runDigits n) : d < 2 := by
  fun_induction runDigits n with
  | case1 => simp at h
  | case2 n ih =>
    rcases List.mem_cons.1 h with rfl | h
    · omega
    · exact ih h

/-- A run has at most as many digits as it is long. -/
lemma length_runDigits_le (n : Nat) : (runDigits n).length ≤ n := by
  fun_induction runDigits n with
  | case1 => simp
  | case2 n ih =>
    rw [List.length_cons]
    omega

/-- A run of zeros and ranks give at most as many symbols, and one for the end. -/
lemma length_symbolsFor_le (last zeros : Nat) (ranks : List Nat) :
    (symbolsFor last zeros ranks).length ≤ zeros + ranks.length + 1 := by
  fun_induction symbolsFor last zeros ranks with
  | case1 zeros =>
    have := length_runDigits_le zeros
    simpa using this
  | case2 zeros ranks ih =>
    rw [List.length_cons]
    omega
  | case3 zeros r ranks ih =>
    have := length_runDigits_le zeros
    rw [List.length_append, List.length_cons, List.length_cons]
    omega

/-- Each item has one rank. -/
lemma length_moveToFront {α : Type} [DecidableEq α] (order items : List α) :
    (moveToFront order items).length = items.length := by
  induction items generalizing order with
  | nil => rfl
  | cons x items ih => simp [moveToFront, ih]

/-- The bits of symbols in a row are those of the first ones, and then those of the others. -/
lemma symbolBits_append (codes : List (List Nat)) (selectors : List Nat) (i : Nat)
    (xs ys : List Nat) :
    symbolBits codes selectors i (xs ++ ys) =
      symbolBits codes selectors i xs ++ symbolBits codes selectors (i + xs.length) ys := by
  induction xs generalizing i with
  | nil => rfl
  | cons x xs ih =>
    rw [List.cons_append, symbolBits, symbolBits, ih, List.append_assoc, List.length_cons,
      Nat.add_assoc, Nat.add_comm 1]

/-- There is a symbol for the end at least. -/
lemma symbolsFor_ne_nil (last zeros : Nat) (ranks : List Nat) :
    symbolsFor last zeros ranks ≠ [] := by
  fun_induction symbolsFor last zeros ranks with
  | case1 zeros => simp
  | case2 zeros ranks ih => exact ih
  | case3 zeros r ranks ih => simp

/-- There is at most one symbol for each byte, and one for the end. -/
lemma length_symbols_le {contents : Bytes} (h : contents ≠ []) :
    (symbols contents).length ≤ contents.length + 1 := by
  have hle := length_symbolsFor_le ((usedBytes contents).length + 1) 0
    (moveToFront (usedBytes contents) (lastColumn contents))
  rw [length_moveToFront, length_lastColumn h, Nat.zero_add] at hle
  exact hle

/-! ## The bytes that occur -/

/-- The bytes in use are those that occur. -/
@[simp] lemma mem_usedBytes {contents : Bytes} {b : UInt8} :
    b ∈ usedBytes contents ↔ b ∈ contents := by
  rw [usedBytes, List.mem_filter, decide_eq_true_eq]
  refine and_iff_right (List.mem_map.2 ⟨b.toNat, List.mem_range.2 b.toNat_lt, ?_⟩)
  exact UInt8.ofNat_toNat

/-- Where there is a byte, one is in use. -/
lemma usedBytes_ne_nil {contents : Bytes} (h : contents ≠ []) : usedBytes contents ≠ [] :=
  List.ne_nil_of_mem (mem_usedBytes.2 (List.head_mem h))

/-- At most 256 bytes are in use. -/
lemma length_usedBytes_le (contents : Bytes) : (usedBytes contents).length ≤ 256 := by
  refine (List.length_filter_le _ _).trans_eq ?_
  rw [List.length_map, List.length_range]

/-! ## Blocks -/

namespace Block

/-- The row of the contents is one of the rows. -/
lemma origin_lt (b : Block) : b.origin < b.contents.length := by
  rw [← length_rows b.contents_ne]
  exact (List.getElem?_eq_some_iff.1 b.row_origin).1

/-- A block has a selector. -/
lemma selectors_ne_nil (b : Block) : b.selectors ≠ [] := by
  intro hnil
  have h := b.selectors_enough
  rw [hnil, List.length_nil, Nat.mul_zero] at h
  exact symbolsFor_ne_nil _ _ _ (List.length_eq_zero_iff.1 (Nat.le_zero.1 h))

/-- What a block announces before its symbols, as far as it can be of use. -/
def plan (b : Block) : Plan where
  origin := UInt32.ofNat b.origin
  used := (usedBytes b.contents).toArray
  tables := (b.codes.map CodeTable.ofCode).toArray
  selectors := (b.selectors.take maxSelectors).toArray

/-- Every symbol has a selector that is of use, and a table. -/
lemma selector_codeAt (b : Block) {i : Nat} (hi : i < (symbols b.contents).length) :
    ∃ s, (b.selectors.take maxSelectors)[i / groupSize]? = some s ∧
      b.codes[s]? = some (codeAt b.codes b.selectors i) := by
  have h₁ := length_symbols_le b.contents_ne
  have h₂ := b.length_contents
  have h₃ := b.selectors_enough
  simp only [maxBlock] at h₂
  have hgroup : i / groupSize < b.selectors.length := by
    rw [Nat.div_lt_iff_lt_mul (by decide)]
    rw [Nat.mul_comm]
    omega
  have hmax : i / groupSize < maxSelectors := by
    rw [Nat.div_lt_iff_lt_mul (by decide)]
    simp only [maxSelectors, maxBlock, groupSize]
    omega
  have hs := b.selector_lt _ (List.getElem_mem hgroup)
  refine ⟨b.selectors[i / groupSize], ?_, ?_⟩
  · rw [List.getElem?_take_of_lt hmax, List.getElem?_eq_getElem hgroup]
  · rw [codeAt, List.getD_eq_getElem _ _ hgroup, List.getD_eq_getElem _ _ hs,
      List.getElem?_eq_getElem hs]

/-- The code lengths of a table can be used. -/
lemma admissible (b : Block) {lengths : List Nat} (h : lengths ∈ b.codes) :
    CodeTable.Admissible lengths where
  ne_nil := List.ne_nil_of_length_pos (by rw [b.length_code lengths h]; omega)
  pos n hn := (b.code_range lengths h n hn).1
  le n hn := (b.code_range lengths h n hn).2

/-- **All contents can be written**, for instance with codes of nine bits throughout. -/
theorem exists_of_contents {w e : Bytes} (hw : w ≠ []) (hlen : w.length ≤ maxBlock)
    (he : expand w = some e) : ∃ b : Block, b.contents = w := by
  obtain ⟨origin, horigin⟩ := exists_row w
  have hused := length_usedBytes_le w
  have hkraft : CodeTable.Kraft (List.replicate ((usedBytes w).length + 2) 9) := by
    rw [CodeTable.Kraft, List.map_replicate, List.sum_replicate_nat]
    simp only [maxCodeLength]
    omega
  have henough : (symbols w).length ≤ groupSize * (List.replicate maxSelectors 0).length := by
    have h := length_symbols_le hw
    rw [List.length_replicate]
    simp only [maxBlock, maxSelectors, groupSize] at hlen ⊢
    omega
  exact ⟨{
    contents := w
    contents_ne := hw
    length_contents := hlen
    expansion := e
    expand_contents := he
    origin := origin
    row_origin := horigin
    codes := List.replicate 2 (List.replicate ((usedBytes w).length + 2) 9)
    length_codes := by simp
    length_code := by simp
    code_range := by simp [maxCodeLength]
    code_kraft := fun lengths h => List.eq_of_mem_replicate h ▸ hkraft
    selectors := List.replicate maxSelectors 0
    selector_lt := by simp
    length_selectors := by rw [List.length_replicate]; decide
    selectors_enough := henough }, rfl⟩

end Block

/-! ## Packing -/

/-- **Packed bits can be read again**, with zeros behind them. -/
lemma toBits_pack (bits : List Bool) :
    ∃ n, toBits (pack bits) = bits ++ List.replicate n false := by
  fun_induction pack bits with
  | case1 => exact ⟨0, rfl⟩
  | case2 b bs ih =>
    obtain ⟨n, hn⟩ := ih
    have hlen : (((b :: bs).take 8).rightpad 8 false).length = 8 := by
      simp [List.rightpad]
    have hbyte : bitsOf 8 (UInt8.ofNat (ofBits (((b :: bs).take 8).rightpad 8 false))).toNat =
        ((b :: bs).take 8).rightpad 8 false := by
      have hlt := ofBits_lt (((b :: bs).take 8).rightpad 8 false)
      have hbits := bitsOf_ofBits (((b :: bs).take 8).rightpad 8 false)
      rw [hlen] at hlt hbits
      rw [UInt8.toNat_ofNat', Nat.mod_eq_of_lt hlt, hbits]
    rw [toBits_cons, hbyte, hn]
    rcases Nat.lt_or_ge (b :: bs).length 8 with hpart | hfull
    · have hdrop : bs.drop 7 = [] := List.drop_eq_nil_of_le (by
        simp only [List.length_cons] at hpart
        omega)
      refine ⟨8 - (b :: bs).length + n, ?_⟩
      rw [hdrop, List.nil_append, List.rightpad, List.take_of_length_le hpart.le, List.append_assoc,
        List.replicate_add]
    · refine ⟨n, ?_⟩
      rw [List.rightpad, List.length_take, Nat.min_eq_left hfull, Nat.sub_self, List.replicate_zero,
        List.append_nil, ← List.append_assoc]
      congr 1
      exact List.take_append_drop 8 (b :: bs)

end Nsis.Bzip2
