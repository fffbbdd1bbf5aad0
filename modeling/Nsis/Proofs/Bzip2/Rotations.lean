import Mathlib.Data.List.GetD
import Mathlib.Data.List.Rotate
import Nsis.Proofs.Bzip2.Columns
import Nsis.Proofs.Bzip2.Expansion

/-!
# Undoing the rotations

The rotations of the contents of a block, in ascending order, are rows whose last column is what a
block transmits, with the number of a row that is the contents themselves. Since turning a row back
by one byte gives the row at its place, the links of the column lead through the contents.

## Main definitions

* `Nsis.Bzip2.rows` — the rotations of a byte string, in ascending order.
* `Nsis.Bzip2.lastColumn` — their last bytes.
* `Nsis.Bzip2.turnBack` — the rotation by one byte to the right.

## Main results

* `Nsis.Bzip2.rows_place` — the row at the place of a row is that row turned back.
* `Nsis.Bzip2.follows_of_rows` — the links lead through the contents.
* `Nsis.Bzip2.link_lastColumn` — a last column is linked to a block that holds the contents.
-/

namespace Nsis.Bzip2

/-- The rotations of a byte string, in ascending order. -/
def rows (w : Bytes) : List Bytes :=
  w.cyclicPermutations.mergeSort fun u v => u ≤ v

/-- The last bytes of the rotations, in their ascending order. -/
def lastColumn (w : Bytes) : Bytes :=
  (rows w).map (·.getLastD 0)

/-- Put the last byte first. -/
def turnBack (r : Bytes) : Bytes :=
  r.getLastD 0 :: r.dropLast

/-! ## Rows -/

/-- A map of the numbers below `n` to such numbers that can be undone permutes them. -/
lemma map_range_perm {n : Nat} {f g : Nat → Nat} (hlt : ∀ p < n, f p < n)
    (hg : ∀ p < n, g (f p) = p) : ((List.range n).map f).Perm (List.range n) := by
  have hnodup : ((List.range n).map f).Nodup := by
    refine List.Nodup.map_on (fun p hp q hq hpq => ?_) List.nodup_range
    rw [← hg p (List.mem_range.1 hp), ← hg q (List.mem_range.1 hq), hpq]
  have hsub : (List.range n).map f ⊆ List.range n := by
    intro k hk
    obtain ⟨p, hp, rfl⟩ := List.mem_map.1 hk
    exact List.mem_range.2 (hlt p (List.mem_range.1 hp))
  exact (List.subperm_of_subset hnodup hsub).perm_of_length_le (by simp)

/-- The rows are the rotations in another order. -/
lemma rows_perm (w : Bytes) : (rows w).Perm w.cyclicPermutations :=
  List.mergeSort_perm _ _

/-- The rows are in order. -/
lemma rows_ascending (w : Bytes) : (rows w).Pairwise (· ≤ ·) := by
  have h : (rows w).Pairwise fun u v => decide (u ≤ v) = true := by
    apply List.pairwise_mergeSort
    · intro u v t huv hvt
      rw [decide_eq_true_eq] at *
      exact List.le_trans huv hvt
    · intro u v
      rw [Bool.or_eq_true, decide_eq_true_eq, decide_eq_true_eq]
      exact List.le_total u v
  exact h.imp fun huv => of_decide_eq_true huv

/-- The rows are the only ascending list of the rotations. -/
lemma eq_rows_of_ascending {w : Bytes} {rs : List Bytes} (hperm : rs.Perm w.cyclicPermutations)
    (hasc : rs.Pairwise (· ≤ ·)) : rs = rows w :=
  (hperm.trans (rows_perm w).symm).eq_of_pairwise (fun _ _ _ _ => List.le_antisymm) hasc
    (rows_ascending w)

/-- A byte string is one of its rows. -/
lemma exists_row (w : Bytes) : ∃ i : Nat, (rows w)[i]? = some w :=
  List.mem_iff_getElem?.1 ((rows_perm w).mem_iff.2 (List.mem_cyclicPermutations_self w))

/-- There are as many rows as there are bytes. -/
lemma length_rows {w : Bytes} (hw : w ≠ []) : (rows w).length = w.length :=
  (rows_perm w).length_eq.trans (w.length_cyclicPermutations_of_ne_nil hw)

/-- The last column is as long as the contents. -/
lemma length_lastColumn {w : Bytes} (hw : w ≠ []) : (lastColumn w).length = w.length := by
  rw [lastColumn, List.length_map, length_rows hw]

/-- All rows are as long as the byte string. -/
lemma length_of_mem_rows {w r : Bytes} (h : r ∈ rows w) : r.length = w.length :=
  (List.mem_cyclicPermutations_iff.1 ((rows_perm w).mem_iff.1 h)).perm.length_eq

/-- The last column has the bytes of the byte string. -/
lemma mem_of_mem_lastColumn {w : Bytes} (hw : w ≠ []) {x : UInt8} (h : x ∈ lastColumn w) :
    x ∈ w := by
  obtain ⟨r, hr, rfl⟩ := List.mem_map.1 h
  have hne : r ≠ [] := by
    apply List.ne_nil_of_length_pos
    rw [length_of_mem_rows hr]
    exact List.length_pos_of_ne_nil hw
  have hperm := (List.mem_cyclicPermutations_iff.1 ((rows_perm w).mem_iff.1 hr)).perm
  rw [List.getLastD_eq_getLast?, List.getLast?_eq_some_getLast hne, Option.getD_some]
  exact hperm.mem_iff.1 (List.getLast_mem hne)

/-- The last column has the last byte of each row. -/
lemma getD_lastColumn {w : Bytes} {i : Nat} (hi : i < (rows w).length) :
    (lastColumn w).getD i 0 = ((rows w).getD i []).getLastD 0 := by
  rw [List.getD_eq_getElem _ _ (by simpa [lastColumn] using hi), List.getD_eq_getElem _ _ hi]
  simp [lastColumn]

/-- A byte string turned forth and back. -/
lemma turnBack_rotate_one {r : Bytes} (hr : r ≠ []) : turnBack (r.rotate 1) = r := by
  obtain ⟨a, r, rfl⟩ := List.exists_cons_of_ne_nil hr
  simp [turnBack]

/-- Turning back permutes the rotations of a byte string. -/
lemma map_turnBack_perm {w : Bytes} (hw : w ≠ []) :
    (w.cyclicPermutations.map turnBack).Perm w.cyclicPermutations := by
  have hforth : w.cyclicPermutations.map (·.rotate 1) = w.cyclicPermutations.rotate 1 := by
    rw [← List.cyclicPermutations_rotate]
    refine List.ext_getElem ?_ fun i h₁ h₂ => ?_
    · simp [List.length_cyclicPermutations_of_ne_nil, hw]
    · rw [List.getElem_map, List.getElem_cyclicPermutations, List.getElem_cyclicPermutations,
        List.rotate_rotate, List.rotate_rotate, Nat.add_comm]
  have hback : (w.cyclicPermutations.map (·.rotate 1)).map turnBack = w.cyclicPermutations := by
    rw [List.map_map]
    refine (List.map_congr_left fun r hr => ?_).trans (List.map_id _)
    have hlen := (List.mem_cyclicPermutations_iff.1 hr).perm.length_eq
    refine turnBack_rotate_one (List.ne_nil_of_length_pos ?_)
    rw [hlen]
    exact List.length_pos_of_ne_nil hw
  have hturn := (List.rotate_perm w.cyclicPermutations 1).symm.map turnBack
  rwa [← hforth, hback] at hturn

/-- Removing as many bytes from the end of two byte strings keeps their order. -/
lemma le_of_append_le_append {u v s t : Bytes} (hlen : u.length = v.length) (h : u ++ s ≤ v ++ t) :
    u ≤ v := by
  induction u generalizing v with
  | nil =>
    obtain rfl : v = [] := List.length_eq_zero_iff.1 hlen.symm
    exact List.le_refl []
  | cons a u ih =>
    cases v with
    | nil => simp at hlen
    | cons b v =>
      rw [List.cons_append, List.cons_append, List.cons_le_cons_iff] at h
      rw [List.cons_le_cons_iff]
      refine h.imp id fun h => ⟨h.1, ih (by simpa using hlen) h.2⟩

/-- Two rows turned back are ordered by their last bytes, and then as they were. -/
lemma turnBack_le_turnBack {u v : Bytes} (hlen : u.length = v.length)
    (h : u.getLastD 0 < v.getLastD 0 ∨ u.getLastD 0 = v.getLastD 0 ∧ u ≤ v) :
    turnBack u ≤ turnBack v := by
  rw [turnBack, turnBack, List.cons_le_cons_iff]
  refine h.imp id fun h => ⟨h.1, ?_⟩
  rcases List.eq_nil_or_concat u with rfl | ⟨u, a, rfl⟩
  · obtain rfl : v = [] := List.length_eq_zero_iff.1 hlen.symm
    exact List.le_refl _
  rcases List.eq_nil_or_concat v with rfl | ⟨v, b, rfl⟩
  · simp at hlen
  simp only [List.concat_eq_append, List.dropLast_concat, List.length_append] at hlen h ⊢
  exact le_of_append_le_append (Nat.add_right_cancel hlen) h.2

/-- The place of a row says how it compares with other rows when both are turned back. -/
lemma turnBack_le_of_place_lt {w : Bytes} {i j : Nat} (hi : i < (rows w).length)
    (hj : j < (rows w).length) (h : place (lastColumn w) i < place (lastColumn w) j) :
    turnBack ((rows w).getD i []) ≤ turnBack ((rows w).getD j []) := by
  have hlen : (lastColumn w).length = (rows w).length := List.length_map _
  have hij : (lastColumn w).getD i 0 < (lastColumn w).getD j 0 ∨
      (lastColumn w).getD i 0 = (lastColumn w).getD j 0 ∧ i < j := by
    -- otherwise row `j` comes first
    by_contra hnot
    rcases lt_trichotomy ((lastColumn w).getD i 0).toNat ((lastColumn w).getD j 0).toNat with
      hlt | heq | hgt
    · exact hnot (.inl (UInt8.lt_iff_toNat_lt.2 hlt))
    · have heq := UInt8.toNat_inj.1 heq
      rcases Nat.lt_trichotomy i j with hlt | rfl | hgt
      · exact hnot (.inr ⟨heq, hlt⟩)
      · exact absurd h (lt_irrefl _)
      · exact absurd h (place_lt_place (hlen ▸ hj) (.inr ⟨heq.symm, hgt⟩)).not_gt
    · exact absurd h (place_lt_place (hlen ▸ hj) (.inl (UInt8.lt_iff_toNat_lt.2 hgt))).not_gt
  rw [getD_lastColumn hi, getD_lastColumn hj] at hij
  rw [List.getD_eq_getElem _ _ hi, List.getD_eq_getElem _ _ hj] at hij ⊢
  apply turnBack_le_turnBack
  · rw [length_of_mem_rows (List.getElem_mem hi), length_of_mem_rows (List.getElem_mem hj)]
  · exact hij.imp id fun h => ⟨h.1, List.pairwise_iff_getElem.1 (rows_ascending w) i j hi hj h.2⟩

/-- **The row at the place of a row is that row turned back.**

**Proof sketch.** Turn all rows back and put each of them at its place. This list is a permutation
of the rows, since the places are one; and it is ascending, since places follow the last bytes and
then the rows. But there is only one ascending list of the rotations. -/
theorem rows_place {w : Bytes} (hw : w ≠ []) {i : Nat} (hi : i < w.length) :
    (rows w).getD (place (lastColumn w) i) [] = turnBack ((rows w).getD i []) := by
  have hlen := length_rows hw
  have hcol := length_lastColumn hw
  have hback : ∀ p, p < w.length → ∃ k < w.length, place (lastColumn w) k = p := fun p hp => by
    simpa only [hcol] using exists_place_eq (hcol.symm ▸ hp : p < (lastColumn w).length)
  choose! g hg using hback
  let turned := (List.range w.length).map fun p => turnBack ((rows w).getD (g p) [])
  have hinv : ((List.range w.length).map g).Perm (List.range w.length) :=
    map_range_perm (fun p hp => (hg p hp).1) fun p hp => (hg p hp).2
  have hperm : turned.Perm w.cyclicPermutations := by
    have hrows : (List.range w.length).map ((rows w).getD · []) = rows w := by
      rw [← hlen]
      refine List.ext_getElem (by simp) fun i h₁ h₂ => ?_
      rw [List.getElem_map, List.getElem_range, List.getD_eq_getElem _ _ h₂]
    have hturned : turned = ((List.range w.length).map g).map fun k =>
        turnBack ((rows w).getD k []) := by
      rw [List.map_map]
      rfl
    have hall : (List.range w.length).map (fun k => turnBack ((rows w).getD k [])) =
        (rows w).map turnBack := by
      conv_rhs => rw [← hrows, List.map_map]
      rfl
    rw [hturned]
    refine (hinv.map _).trans ?_
    rw [hall]
    exact ((rows_perm w).map turnBack).trans (map_turnBack_perm hw)
  have hasc : turned.Pairwise (· ≤ ·) := by
    refine List.pairwise_map.2 (List.pairwise_lt_range.imp_of_mem fun {p q} hp hq hpq => ?_)
    obtain ⟨hgp, hplace⟩ := hg p (List.mem_range.1 hp)
    obtain ⟨hgq, hplace'⟩ := hg q (List.mem_range.1 hq)
    exact turnBack_le_of_place_lt (hlen ▸ hgp) (hlen ▸ hgq) (by rw [hplace, hplace']; exact hpq)
  have heq : turned = rows w := eq_rows_of_ascending hperm hasc
  have hp : place (lastColumn w) i < w.length := by
    simpa only [hcol] using place_lt (hcol.symm ▸ hi : i < (lastColumn w).length)
  obtain ⟨hk, hplace⟩ := hg _ hp
  have hget : turned.getD (place (lastColumn w) i) [] =
      turnBack ((rows w).getD (g (place (lastColumn w) i)) []) := by
    rw [List.getD_eq_getElem _ _ (by simpa [turned] using hp)]
    simp only [turned, List.getElem_map, List.getElem_range]
  rw [heq, place_inj (hcol ▸ hk) (hcol ▸ hi) hplace] at hget
  exact hget

/-! ## The contents -/

/-- A byte string turned back and forth. -/
lemma rotate_one_turnBack {r : Bytes} (hr : r ≠ []) : (turnBack r).rotate 1 = r := by
  rcases List.eq_nil_or_concat r with rfl | ⟨u, a, rfl⟩
  · exact absurd rfl hr
  · simp [turnBack]

/-- The cell of a row is linked to that row turned forth. -/
lemma rows_link {w : Bytes} (hw : w ≠ []) {cells : Array Cell}
    (hc : Linked (lastColumn w) (lastColumn w).length cells) {p : Nat} (hp : p < w.length) :
    (nth cells p).link < w.length ∧
      (rows w).getD (nth cells p).link [] = ((rows w).getD p []).rotate 1 := by
  rw [← length_lastColumn hw] at hp
  obtain ⟨hlink, hplace⟩ := hc.place_link hp
  rw [length_lastColumn hw] at hlink
  have hrow := rows_place hw hlink
  rw [hplace] at hrow
  refine ⟨hlink, ?_⟩
  rw [hrow, rotate_one_turnBack]
  rw [← length_rows hw] at hlink
  rw [List.getD_eq_getElem _ _ hlink]
  apply List.ne_nil_of_length_pos
  rw [length_of_mem_rows (List.getElem_mem hlink)]
  exact List.length_pos_of_ne_nil hw

/-- The last byte of a rotation. -/
lemma getLastD_rotate_succ {w : Bytes} (hw : w ≠ []) (k : Nat) :
    (w.rotate (k + 1)).getLastD 0 = w.getD (k % w.length) 0 := by
  have hpos := List.length_pos_of_ne_nil hw
  rw [List.getLastD_eq_getLast?, List.getLast?_eq_getElem?, List.length_rotate,
    List.getElem?_rotate (by omega), List.getD_eq_getElem?_getD,
    show w.length - 1 + (k + 1) = k + w.length by omega, Nat.add_mod_right]

/-- **The links lead through the contents**, again and again. -/
theorem follows_of_rows {w : Bytes} (hw : w ≠ []) (hn : w.length ≤ maxBlock) {cells : Array Cell}
    (hc : Linked (lastColumn w) (lastColumn w).length cells) (m : Nat) {k p : Nat}
    (hp : p < w.length) (hrow : (rows w).getD p [] = w.rotate (k + 1)) :
    Follows cells p ((List.range' k m).map fun j => w.getD (j % w.length) 0) := by
  induction m generalizing k p with
  | zero => trivial
  | succ m ih =>
    obtain ⟨hlink, hnext⟩ := rows_link hw hc hp
    have hsize : p < cells.size := by rw [hc.size_eq, length_lastColumn hw]; exact hp
    refine ⟨by omega, nth cells p, getElem?_eq_nth hsize, ?_, ?_⟩
    · rw [hc.byte_eq p (by rwa [length_lastColumn hw]), getD_lastColumn (by rwa [length_rows hw]),
        hrow, getLastD_rotate_succ hw]
    · exact ih hlink (by rw [hnext, hrow, List.rotate_rotate])

/-- The contents and their first byte again, as the links lead through them. -/
lemma map_range_getD (a : UInt8) (w : Bytes) :
    (List.range' 0 (w.length + 2)).map (fun j => (a :: w).getD (j % (w.length + 1)) 0) =
      a :: (w ++ [a]) := by
  rw [← List.range_eq_range', List.range_succ, List.map_append, List.map_singleton,
    Nat.mod_self]
  have hw : (List.range (w.length + 1)).map (fun j => (a :: w).getD (j % (w.length + 1)) 0) =
      a :: w := by
    refine List.ext_getElem (by simp) fun i h₁ h₂ => ?_
    have hi : i < w.length + 1 := h₂
    rw [List.getElem_map, List.getElem_range, Nat.mod_eq_of_lt hi, List.getD_eq_getElem _ _ h₂]
  rw [hw]
  rfl

/-- A row that is the byte string itself is one of its rows. -/
lemma lt_length_of_row {w : Bytes} (hw : w ≠ []) {origin : Nat}
    (horigin : (rows w)[origin]? = some w) : origin < w.length := by
  rw [← length_rows hw]
  exact (List.getElem?_eq_some_iff.1 horigin).1

/-- From the link of a row that is the contents themselves, the links lead through the contents and
then to their first byte again. -/
lemma follows_contents {w : Bytes} (hw : w ≠ []) (hn : w.length ≤ maxBlock) {cells : Array Cell}
    (hc : Linked (lastColumn w) (lastColumn w).length cells) {origin : Nat}
    (horigin : (rows w)[origin]? = some w) :
    Follows cells (nth cells origin).link (w ++ [w.head hw]) := by
  obtain ⟨hlink, hrow⟩ := rows_link hw hc (lt_length_of_row hw horigin)
  have hself : (rows w).getD origin [] = w := by
    rw [List.getD_eq_getElem?_getD, horigin, Option.getD_some]
  rw [hself] at hrow
  obtain ⟨a, w, rfl⟩ := List.exists_cons_of_ne_nil hw
  have hfollows := follows_of_rows hw hn hc (w.length + 2) hlink hrow
  rwa [List.length_cons, map_range_getD] at hfollows

/-- **A last column is linked to a block that holds the contents.** -/
theorem link_lastColumn {w : Bytes} (hw : w ≠ []) (hn : w.length ≤ maxBlock) {origin : Nat}
    (horigin : (rows w)[origin]? = some w) :
    ∃ o, Gathering.link origin (tally (lastColumn w)) (cellsOf (lastColumn w)) = .ready o ∧
      o.pending = 0 ∧ o.Holds w := by
  have hlen := length_lastColumn hw
  have ho := lt_length_of_row hw horigin
  obtain ⟨cells, hlinked, hready⟩ := link_eq_ready (hlen.symm ▸ hn) (hlen.symm ▸ ho)
  refine ⟨_, hready, rfl, ?_⟩
  have hfollows := follows_contents hw hn hlinked horigin
  obtain ⟨a, w, rfl⟩ := List.exists_cons_of_ne_nil hw
  obtain ⟨-, c, hc, hbyte, hrest⟩ := hfollows
  rw [getElem?_eq_nth (by rw [hlinked.size_eq, hlen]; exact (rows_link hw hlinked ho).1),
    Option.some_inj] at hc
  rw [hc]
  refine ⟨hbyte.symm, ?_, a, hrest⟩
  simp only [Output.readable, hlinked.size_eq, hlen, List.length_cons]
  omega

end Nsis.Bzip2
