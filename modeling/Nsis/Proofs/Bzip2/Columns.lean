import Mathlib.Algebra.BigOperators.Group.List.Basic
import Mathlib.Algebra.GroupWithZero.Nat
import Mathlib.Data.Fintype.EquivFin
import Mathlib.Data.List.GetD
import Mathlib.Order.Nat
import Nsis.Bytes
import Nsis.Bzip2.Gathering
import Nsis.Proofs.Bzip2.MoveToFront

/-!
# Linking the last column to the first

The first column of a block is its last column in ascending order. The byte in row `i` of the last
column stands, in the first column, behind all smaller bytes and behind the equal bytes of earlier
rows. This sends rows to rows one to one, and linking the cells of a block inverts it: the link of
every cell is the row that is sent to it. In particular no link leaves the block.

## Main definitions

* `Nsis.Bzip2.tally` — how often each byte occurs in a column.
* `Nsis.Bzip2.place` — the row of the first column in which a byte of the last column stands.
* `Nsis.Bzip2.cellsOf` — the cells of a column before they are linked.
* `Nsis.Bzip2.Linked` — cells of which the first rows are linked.

## Main results

* `Nsis.Bzip2.place_lt_place`, `Nsis.Bzip2.exists_place_eq` — rows are sent to rows one to one, in
  the order of their bytes.
* `Nsis.Bzip2.startsValid_tally` — the counts of a column always fit it.
* `Nsis.Bzip2.linkCells_eq_some` — linking succeeds, and inverts `Nsis.Bzip2.place`.
* `Nsis.Bzip2.link_eq_ready` — a block whose row is inside it gets ready to be written.
-/

namespace Nsis.Bzip2

/-! ## Cells -/

namespace Cell

/-- A byte and a link do not overlap in a cell. -/
lemma toNat_withLink (c : Cell) {i : Nat} (hi : i < 2 ^ 24) :
    (c.withLink i).toNat = c.toNat ||| i <<< 8 := by
  have h8 : (8 : UInt32).toNat % 32 = 8 := rfl
  have hlt : i <<< 8 < 2 ^ 32 := by
    rw [Nat.shiftLeft_eq]
    omega
  rw [withLink, UInt32.toNat_or, UInt32.toNat_shiftLeft, h8, UInt32.toNat_ofNat',
    Nat.mod_eq_of_lt (show i < 2 ^ 32 by omega), Nat.mod_eq_of_lt hlt]

/-- A cell made for a byte has this byte. -/
@[simp] lemma byte_ofByte (b : UInt8) : (ofByte b).byte = b := by
  apply UInt8.toNat_inj.1
  simp [ofByte, byte]

/-- A cell made for a byte has no link yet. -/
@[simp] lemma link_ofByte (b : UInt8) : (ofByte b).link = 0 := by
  have h8 : (8 : UInt32).toNat % 32 = 8 := rfl
  rw [ofByte, link, UInt32.toNat_shiftRight, h8, UInt8.toNat_toUInt32, Nat.shiftRight_eq_div_pow]
  have := b.toNat_lt
  omega

/-- Adding a link keeps the byte. -/
lemma byte_withLink (c : Cell) {i : Nat} (hi : i < 2 ^ 24) : (c.withLink i).byte = c.byte := by
  apply UInt8.toNat_inj.1
  rw [byte, byte, UInt32.toNat_toUInt8, UInt32.toNat_toUInt8, toNat_withLink c hi,
    Nat.or_mod_two_pow, Nat.shiftLeft_eq, Nat.mul_mod_left, Nat.or_zero]

/-- A link that is added to a cell without one is the link of the cell. -/
lemma link_withLink {c : Cell} (hc : c.link = 0) {i : Nat} (hi : i < 2 ^ 24) :
    (c.withLink i).link = i := by
  have h8 : (8 : UInt32).toNat % 32 = 8 := rfl
  rw [link, UInt32.toNat_shiftRight, h8] at hc
  rw [link, UInt32.toNat_shiftRight, h8, toNat_withLink c hi, Nat.shiftRight_or_distrib, hc,
    Nat.shiftLeft_shiftRight, Nat.zero_or]

end Cell

/-! ## The place of a byte in the first column -/

/-- The first row of the first column that holds byte `b`, or would. -/
def firstRow (column : Bytes) (b : UInt8) : Nat :=
  column.countP (· < b)

/-- The row of the first column in which the byte in row `i` of the last column stands. -/
def place (column : Bytes) (i : Nat) : Nat :=
  firstRow column (column.getD i 0) + (column.take i).count (column.getD i 0)

/-- One more row adds its own byte to the count. -/
lemma count_take_succ {column : Bytes} {i : Nat} (hi : i < column.length) (b : UInt8) :
    (column.take (i + 1)).count b =
      (column.take i).count b + if column.getD i 0 = b then 1 else 0 := by
  rw [List.take_succ_eq_append_getElem hi, List.count_append, List.getD_eq_getElem _ _ hi,
    List.count_singleton]
  simp only [beq_iff_eq]

/-- Earlier rows hold no more copies of a byte. -/
lemma count_take_le (column : Bytes) {i j : Nat} (h : i ≤ j) (b : UInt8) :
    (column.take i).count b ≤ (column.take j).count b :=
  (List.take_sublist_take_left h).count_le b

/-- The rows of a byte in the first column are followed by those of the larger bytes. -/
lemma firstRow_add_count_le (column : Bytes) {b c : UInt8} (h : b < c) :
    firstRow column b + column.count b ≤ firstRow column c := by
  induction column with
  | nil => simp [firstRow]
  | cons x xs ih =>
    simp only [firstRow, List.countP_cons, List.count_cons, decide_eq_true_eq, beq_iff_eq,
      UInt8.lt_iff_toNat_lt, ← UInt8.toNat_inj] at ih h ⊢
    split_ifs <;> omega

/-- All rows of a byte lie inside the block. -/
lemma firstRow_add_count_le_length (column : Bytes) (b : UInt8) :
    firstRow column b + column.count b ≤ column.length := by
  induction column with
  | nil => simp [firstRow]
  | cons x xs ih =>
    simp only [firstRow, List.countP_cons, List.count_cons, List.length_cons, decide_eq_true_eq,
      beq_iff_eq, UInt8.lt_iff_toNat_lt, ← UInt8.toNat_inj] at ih ⊢
    split_ifs <;> omega

/-- The place of a row lies among the rows of its byte. -/
lemma place_lt_add_count {column : Bytes} {i : Nat} (hi : i < column.length) :
    place column i < firstRow column (column.getD i 0) + column.count (column.getD i 0) := by
  have h₁ := count_take_succ hi (column.getD i 0)
  have h₂ : (column.take (i + 1)).count (column.getD i 0) ≤ column.count (column.getD i 0) :=
    (List.take_sublist _ _).count_le _
  rw [if_pos rfl] at h₁
  rw [place]
  omega

/-- The place of a row is a row. -/
lemma place_lt {column : Bytes} {i : Nat} (hi : i < column.length) :
    place column i < column.length :=
  (place_lt_add_count hi).trans_le (firstRow_add_count_le_length _ _)

/-- **Rows keep their order** among equal bytes, and smaller bytes come first.

**Proof sketch.** The rows of one byte in the first column are an interval, in which the places
follow the order of the rows; the intervals of two bytes follow the order of the bytes. -/
lemma place_lt_place {column : Bytes} {i j : Nat} (hi : i < column.length)
    (h : column.getD i 0 < column.getD j 0 ∨ column.getD i 0 = column.getD j 0 ∧ i < j) :
    place column i < place column j := by
  rcases h with h | ⟨heq, hij⟩
  · have h₁ := place_lt_add_count hi
    have h₂ := firstRow_add_count_le column h
    have h₃ : firstRow column (column.getD j 0) ≤ place column j := Nat.le_add_right _ _
    omega
  · have h₁ := count_take_succ hi (column.getD i 0)
    have h₂ := count_take_le column (show i + 1 ≤ j from hij) (column.getD i 0)
    rw [if_pos rfl] at h₁
    rw [place, place, ← heq]
    omega

/-- Two rows have different places. -/
lemma place_inj {column : Bytes} {i j : Nat} (hi : i < column.length) (hj : j < column.length)
    (h : place column i = place column j) : i = j := by
  have hne : ∀ {i j}, i < column.length → j < column.length → i < j →
      place column i ≠ place column j := by
    intro i j hi hj hij heq
    rcases lt_trichotomy (column.getD i 0).toNat (column.getD j 0).toNat with hlt | he | hgt
    · exact (place_lt_place hi (Or.inl (UInt8.lt_iff_toNat_lt.2 hlt))).ne heq
    · exact (place_lt_place hi (Or.inr ⟨UInt8.toNat_inj.1 he, hij⟩)).ne heq
    · exact (place_lt_place hj (Or.inl (UInt8.lt_iff_toNat_lt.2 hgt))).ne' heq
  rcases lt_trichotomy i j with hij | rfl | hij
  · exact absurd h (hne hi hj hij)
  · rfl
  · exact absurd h.symm (hne hj hi hij)

/-- Every row is the place of a row. -/
lemma exists_place_eq {column : Bytes} {p : Nat} (hp : p < column.length) :
    ∃ k < column.length, place column k = p := by
  let f : Fin column.length → Fin column.length := fun i => ⟨place column i, place_lt i.2⟩
  have hinj : Function.Injective f := fun i j hij =>
    Fin.ext (place_inj i.2 j.2 (congrArg Fin.val hij))
  obtain ⟨k, hk⟩ := Finite.injective_iff_surjective.1 hinj ⟨p, hp⟩
  exact ⟨k, k.2, congrArg Fin.val hk⟩

/-! ## Counting bytes -/

/-- How often each byte occurs in a column. -/
def tally (column : Bytes) : Array Nat :=
  Array.ofFn fun b : Fin 256 => column.count (UInt8.ofNat b)

/-- A tally counts every byte there is. -/
@[simp] lemma size_tally (column : Bytes) : (tally column).size = 256 := by
  simp [tally]

/-- Nothing is counted in an empty column. -/
lemma tally_nil : tally [] = Array.replicate 256 0 := by
  ext i h₁ h₂ <;> simp [tally]

/-- Counting copies of a byte. -/
lemma tally_modify (column : Bytes) (b : UInt8) (k : Nat) :
    (tally column).modify b.toNat (· + k) = tally (column ++ List.replicate k b) := by
  refine Array.ext (by simp) fun i h₁ h₂ => ?_
  have hi : i < 256 := by simpa using h₂
  have heq : b.toNat = i ↔ b = UInt8.ofNat i := by
    rw [← UInt8.toNat_inj, UInt8.toNat_ofNat', Nat.mod_eq_of_lt hi]
  simp only [tally, Array.getElem_modify, Array.getElem_ofFn, List.count_append,
    List.count_replicate, beq_iff_eq, heq]
  split_ifs <;> rfl

/-- The beginnings of a list of numbers add up to what lies below. -/
lemma getElem?_sums (total : Nat) (ns : List Nat) {k : Nat} (hk : k ≤ ns.length) :
    (sums total ns)[k]? = some (total + (ns.take k).sum) := by
  induction ns generalizing total k with
  | nil =>
    obtain rfl : k = 0 := by simpa using hk
    simp [sums]
  | cons n ns ih =>
    cases k with
    | zero => simp [sums]
    | succ k =>
      rw [sums, List.getElem?_cons_succ, ih (total + n) (by simpa using hk), List.take_succ_cons,
        List.sum_cons, Nat.add_assoc]

/-- There is a sum before each number and one behind the last. -/
lemma length_sums (total : Nat) (ns : List Nat) : (sums total ns).length = ns.length + 1 := by
  induction ns generalizing total with
  | nil => rfl
  | cons n ns ih => simp [sums, ih]

/-- Sums of natural numbers never fall. -/
lemma ascending_sums (total : Nat) (ns : List Nat) : ascending (sums total ns) = true := by
  induction ns generalizing total with
  | nil => rfl
  | cons n ns ih =>
    have h := ih (total + n)
    cases ns with
    | nil => simp [sums, ascending]
    | cons m ns =>
      simp only [sums, ascending, Bool.and_eq_true, decide_eq_true_eq] at h ⊢
      exact ⟨Nat.le_add_right _ _, h⟩

/-- The counts of the bytes below `k` add up to the number of such bytes. -/
lemma sum_take_tally (column : Bytes) {k : Nat} (hk : k ≤ 256) :
    ((tally column).toList.take k).sum = column.countP (·.toNat < k) := by
  induction k with
  | zero => simp
  | succ k ih =>
    have hlen : k < (tally column).toList.length := by
      rw [Array.length_toList, size_tally]
      omega
    have hcount : ((tally column).toList)[k] = column.count (UInt8.ofNat k) := by
      simp only [tally, Array.getElem_toList, Array.getElem_ofFn]
    rw [List.take_succ_eq_append_getElem hlen, List.sum_append, ih (by omega), hcount]
    clear ih hlen hcount
    induction column with
    | nil => simp
    | cons x xs ih =>
      have heq : x = UInt8.ofNat k ↔ x.toNat = k := by
        rw [← UInt8.toNat_inj, UInt8.toNat_ofNat', Nat.mod_eq_of_lt (by omega)]
      simp only [List.countP_cons, List.count_cons, List.sum_cons, List.sum_nil, Nat.add_zero,
        decide_eq_true_eq, beq_iff_eq, heq] at ih ⊢
      rw [← ih]
      split_ifs <;> omega

/-- There is a start for every byte, and the end. -/
lemma size_starts (column : Bytes) : (starts (tally column)).size = 257 := by
  simp [starts, length_sums]

/-- The places at which bytes begin in the first column. -/
lemma nth_starts (column : Bytes) {k : Nat} (hk : k ≤ 256) :
    nth (starts (tally column)) k = column.countP (·.toNat < k) := by
  rw [nth, starts, List.getElem?_toArray, getElem?_sums 0 _ (by simpa using hk),
    sum_take_tally column hk, Nat.zero_add]
  rfl

/-- The rows of a byte start behind those of all smaller ones. -/
lemma nth_starts_byte (column : Bytes) (b : UInt8) :
    nth (starts (tally column)) b.toNat = firstRow column b := by
  rw [nth_starts column b.toNat_lt.le, firstRow]
  refine List.countP_congr fun x _ => ?_
  simp [UInt8.lt_iff_toNat_lt]

/-- **The counts of a column fit it**: no check of counts or places can fail. -/
lemma startsValid_tally (column : Bytes) {n : Nat} (hn : column.length = n) :
    startsValid (tally column) (starts (tally column)) n = true := by
  have hcounts : (tally column).all (· ≤ n) = true := by
    rw [Array.all_eq_true]
    intro i hi
    simp only [tally, Array.getElem_ofFn, decide_eq_true_eq, ← hn]
    exact List.count_le_length
  have hplaces : (starts (tally column)).all (· ≤ n) = true := by
    rw [Array.all_eq_true]
    intro i hi
    have hi' : i ≤ 256 := by
      rw [size_starts] at hi
      omega
    rw [← nth_eq_getElem hi, nth_starts column hi', decide_eq_true_eq, ← hn]
    exact List.countP_le_length
  rw [startsValid, hcounts, hplaces, starts, List.toList_toArray, ascending_sums]
  rfl

/-! ## Linking -/

/-- The cells of a column before they are linked. -/
def cellsOf (column : Bytes) : Array Cell :=
  (column.map Cell.ofByte).toArray

/-- There is a cell for each byte of the column. -/
@[simp] lemma size_cellsOf (column : Bytes) : (cellsOf column).size = column.length := by
  simp [cellsOf]

/-- Each cell has its byte of the column, and no link yet. -/
lemma nth_cellsOf {column : Bytes} {i : Nat} (hi : i < column.length) :
    nth (cellsOf column) i = Cell.ofByte (column.getD i 0) := by
  simp [cellsOf, nth, hi]

/-- The cells of a column of which the rows below `i` are linked: the place of each such row links
back to it, and the other cells have no link yet. -/
structure Linked (column : Bytes) (i : Nat) (cells : Array Cell) : Prop where
  size_eq : cells.size = column.length
  byte_eq : ∀ j < column.length, (nth cells j).byte = column.getD j 0
  link_eq : ∀ k < i, (nth cells (place column k)).link = k
  link_eq_zero : ∀ k, i ≤ k → k < column.length → (nth cells (place column k)).link = 0

/-- Before the first row, nothing is linked. -/
lemma linked_cellsOf (column : Bytes) : Linked column 0 (cellsOf column) where
  size_eq := size_cellsOf column
  byte_eq j hj := by rw [nth_cellsOf hj, Cell.byte_ofByte]
  link_eq k hk := absurd hk (Nat.not_lt_zero k)
  link_eq_zero k _ hk := by rw [nth_cellsOf (place_lt hk), Cell.link_ofByte]

/-- **Linking row after row.**

**Proof sketch.** Induction on the rows that are left. The next free row of the first column for the
byte of row `i` is its place; no earlier row has the same place (`place_inj`), so its cell has no
link yet, and later steps leave it alone. -/
lemma linkFrom_eq_some {column : Bytes} (hn : column.length ≤ 2 ^ 24) {n i : Nat}
    (hi : i + n = column.length) {cells : Array Cell} (hc : Linked column i cells)
    {places : Array Nat} (hsize : 256 ≤ places.size)
    (hp : ∀ b : UInt8, nth places b.toNat = firstRow column b + (column.take i).count b) :
    ∃ cells', linkFrom i n cells places = some cells' ∧ Linked column column.length cells' := by
  induction n generalizing i cells places with
  | zero =>
    obtain rfl : i = column.length := by omega
    exact ⟨cells, rfl, hc⟩
  | succ n ih =>
    have hlt : i < column.length := by omega
    have hbyte := hc.byte_eq i hlt
    have hplace : nth places (nth cells i).byte.toNat = place column i := by
      rw [hp, hbyte, place]
    have hin : place column i < cells.size := by
      rw [hc.size_eq]
      exact place_lt hlt
    have hrow : (nth cells i).byte.toNat < places.size := (UInt8.toNat_lt _).trans_le hsize
    obtain ⟨c₁, hc₁, hs₁, hn₁⟩ := write?_eq_some hin ((nth cells (place column i)).withLink i)
    obtain ⟨p₁, hp₁, hps₁, hpn₁⟩ := write?_eq_some hrow (place column i + 1)
    have hne : ∀ k < column.length, k ≠ i →
        nth c₁ (place column k) = nth cells (place column k) := by
      intro k hk hki
      rw [hn₁, if_neg fun h => hki (place_inj hk hlt h)]
    have hlinked : Linked column (i + 1) c₁ := by
      refine ⟨hs₁.trans hc.size_eq, fun j hj => ?_, fun k hk => ?_, fun k hk₁ hk₂ => ?_⟩
      · rw [hn₁]
        split_ifs with h
        · rw [Cell.byte_withLink _ (by omega), h, hc.byte_eq _ (place_lt hlt)]
        · exact hc.byte_eq j hj
      · rcases Nat.eq_or_lt_of_le (Nat.le_of_lt_succ hk) with rfl | hk
        · rw [hn₁, if_pos rfl, Cell.link_withLink (hc.link_eq_zero k le_rfl hlt) (by omega)]
        · rw [hne k (by omega) (by omega), hc.link_eq k hk]
      · rw [hne k hk₂ (by omega), hc.link_eq_zero k (by omega) hk₂]
    have hplaces : ∀ b : UInt8,
        nth p₁ b.toNat = firstRow column b + (column.take (i + 1)).count b := by
      intro b
      rw [hpn₁, count_take_succ hlt, hbyte, hp b]
      by_cases hb : column.getD i 0 = b
      · rw [if_pos (by rw [hb]), if_pos hb, place, hb, Nat.add_assoc]
      · rw [if_neg fun h => hb (UInt8.toNat_inj.1 h.symm), if_neg hb, Nat.add_zero]
    obtain ⟨c₂, hrun, hc₂⟩ := ih (by omega) hlinked (by omega) hplaces
    refine ⟨c₂, ?_, hc₂⟩
    have h₁ := getElem?_eq_nth (show i < cells.size by rw [hc.size_eq]; exact hlt)
    have h₂ := getElem?_eq_nth hrow
    rw [hplace] at h₂
    simp only [linkFrom, h₁, h₂, getElem?_eq_nth hin, hc₁, hp₁, hrun]

/-- **Linking the cells of a column** succeeds and inverts the places of its rows. -/
theorem linkCells_eq_some (column : Bytes) (hn : column.length ≤ 2 ^ 24) :
    ∃ cells, linkCells (cellsOf column) (starts (tally column)) = some cells ∧
      Linked column column.length cells := by
  rw [linkCells, size_cellsOf]
  refine linkFrom_eq_some hn (Nat.zero_add _) (linked_cellsOf column) ?_ fun b => ?_
  · rw [size_starts]
    decide
  · rw [nth_starts_byte, List.take_zero, List.count_nil, Nat.add_zero]

/-- The link of a cell of a linked block is the row whose place it is. -/
lemma Linked.place_link {column : Bytes} {cells : Array Cell}
    (h : Linked column column.length cells) {p : Nat} (hp : p < column.length) :
    (nth cells p).link < column.length ∧ place column (nth cells p).link = p := by
  obtain ⟨k, hk, rfl⟩ := exists_place_eq hp
  rw [h.link_eq k hk]
  exact ⟨hk, rfl⟩

/-- **No check of a gathered block fails** after its row was found to be inside it. -/
theorem link_eq_ready {column : Bytes} (hn : column.length ≤ maxBlock) {origin : Nat}
    (horigin : origin < column.length) :
    ∃ cells, Linked column column.length cells ∧
      Gathering.link origin (tally column) (cellsOf column) =
        .ready
          { cells := cells
            char := 0
            pending := 0
            used := 1
            ahead := (nth cells (nth cells origin).link).byte
            pos := (nth cells (nth cells origin).link).link } := by
  have hblock : maxBlock ≤ 2 ^ 24 := by decide
  obtain ⟨cells, hcells, hlinked⟩ := linkCells_eq_some column (hn.trans hblock)
  have hlink := (hlinked.place_link horigin).1
  have hnext : (Gathering.blankOutput cells (nth cells origin).link).next =
      .ok ((nth cells (nth cells origin).link).byte,
        { Gathering.blankOutput cells (nth cells origin).link with
          pos := (nth cells (nth cells origin).link).link, used := 1 }) := by
    have hcell : cells[(nth cells origin).link]? = some (nth cells (nth cells origin).link) :=
      getElem?_eq_nth (by rwa [hlinked.size_eq])
    have hpos : ¬ maxBlock ≤ (nth cells origin).link := by omega
    simp only [Output.next, Gathering.blankOutput, if_neg hpos, hcell]
  refine ⟨cells, hlinked, ?_⟩
  rw [Gathering.link]
  simp only [startsValid_tally column (size_cellsOf column).symm, if_true, hcells,
    getElem?_eq_nth (show origin < cells.size by rwa [hlinked.size_eq]), hnext]
  rfl

end Nsis.Bzip2
