import Mathlib.Data.List.Basic
import Mathlib.Data.List.Perm.Subperm
import Nsis.Proofs.Bzip2.Rotations

/-!
# Reading sorted contents back

A block whose cells are the last column of the sorted rotations of some contents, whose counts are
those of that column, and whose row is one that is the contents themselves, passes all checks. Its
links are a permutation of its rows, and reading byte after byte from the link of its row gives the
contents, and then the first of them again. This holds for all contents: where several rotations are
equal, any of their rows will do.

## Main definitions

* `Nsis.Bzip2.Output.reads` — reading some bytes of a block, one after the other.

## Main results

* `Nsis.Bzip2.Linked.links_perm` — the links of a block are a permutation of its rows.
* `Nsis.Bzip2.Output.reads_of_follows` — reading where links lead.
* `Nsis.Bzip2.Gathering.contents_read_back` — the contents are read back.
-/

namespace Nsis.Bzip2

/-- **The links of a block are a permutation of its rows.** -/
lemma Linked.links_perm {column : Bytes} {cells : Array Cell}
    (h : Linked column column.length cells) :
    (cells.toList.map Cell.link).Perm (List.range column.length) := by
  have hlinks : cells.toList.map Cell.link =
      (List.range column.length).map fun p => (nth cells p).link := by
    refine List.ext_getElem (by simp [h.size_eq]) fun p h₁ h₂ => ?_
    have hp : p < cells.size := by simpa using h₁
    rw [List.getElem_map, List.getElem_map, List.getElem_range, Array.getElem_toList,
      nth_eq_getElem hp]
  rw [hlinks]
  -- the place of a link is its row
  exact map_range_perm (fun p hp => (h.place_link hp).1) fun p hp => (h.place_link hp).2

namespace Output

/-- Read the next `n` bytes of a block. -/
def reads (o : Output) : (n : Nat) → Except Status (Bytes × Output)
  | 0 => .ok ([], o)
  | n + 1 =>
    match o.next with
    | .error s => .error s
    | .ok (b, o) => (o.reads n).map fun p => (b :: p.1, p.2)

/-- The bytes to which links lead are read one after the other, and the links lead on. -/
lemma reads_of_follows {o : Output} {bs rest : Bytes} (h : Follows o.cells o.pos (bs ++ rest)) :
    ∃ pos, o.reads bs.length = .ok (bs, { o with pos := pos, used := o.used + bs.length }) ∧
      Follows o.cells pos rest := by
  induction bs generalizing o with
  | nil => exact ⟨o.pos, rfl, h⟩
  | cons b bs ih =>
    obtain ⟨pos, hnext, hpos⟩ := next_of_follows h
    obtain ⟨pos', hreads, hpos'⟩ := ih (o := { o with pos := pos, used := o.used + 1 }) hpos
    refine ⟨pos', ?_, hpos'⟩
    rw [List.length_cons, reads, hnext]
    simp only [hreads, Except.map, Nat.add_assoc, Nat.add_comm 1]

end Output

namespace Gathering

/-- **The contents are read back.** A gathering of the last column of some contents, with a row that
is the contents themselves, is ready to be written. Its links are a permutation of its rows. Reading
starts at the link of its row; the first byte has been read, and as many bytes as there are contents
are the contents, also if several rotations of them are equal. The byte after them is the first one
again. -/
theorem contents_read_back {w : Bytes} (hw : w ≠ []) (hn : w.length ≤ maxBlock) {g : Gathering}
    (hcells : g.cells = cellsOf (lastColumn w)) (hcounts : g.counts = tally (lastColumn w))
    (horigin : (rows w)[g.plan.origin.toNat]? = some w) :
    ∃ o c, g.finish = .ready o ∧
      (o.cells.toList.map Cell.link).Perm (List.range w.length) ∧
      o.cells[g.plan.origin.toNat]? = some c ∧
      (blankOutput o.cells c.link).next = .ok (o.ahead, { o with ahead := 0 }) ∧
      ∃ o₁ o₂, (blankOutput o.cells c.link).reads w.length = .ok (w, o₁) ∧
        o₁.next = .ok (w.head hw, o₂) := by
  have hlen := length_lastColumn hw
  have ho := lt_length_of_row hw horigin
  obtain ⟨cells, hlinked, hready⟩ := link_eq_ready (hlen.symm ▸ hn) (hlen.symm ▸ ho)
  have hfinish : g.finish = link g.plan.origin.toNat (tally (lastColumn w))
      (cellsOf (lastColumn w)) := by
    rw [finish, hcells, hcounts, size_cellsOf, hlen, if_neg (by omega)]
  have hsize : cells.size = w.length := by rw [hlinked.size_eq, hlen]
  have hfollows := follows_contents hw hn hlinked horigin
  obtain ⟨hlink, -⟩ := rows_link hw hlinked ho
  obtain ⟨pos, hreads, hrest⟩ :=
    Output.reads_of_follows (o := blankOutput cells (nth cells g.plan.origin.toNat).link) hfollows
  obtain ⟨pos', hnext, -⟩ := Output.next_of_follows
    (o := { blankOutput cells (nth cells g.plan.origin.toNat).link with
      pos := pos, used := 0 + w.length }) hrest
  refine ⟨_, nth cells g.plan.origin.toNat, hfinish.trans hready, hlen ▸ hlinked.links_perm,
    getElem?_eq_nth (hsize ▸ ho), ?_, _, _, hreads, hnext⟩
  simp only [Output.next, blankOutput, if_neg (Nat.not_le.2 (Nat.lt_of_lt_of_le hlink hn)),
    getElem?_eq_nth (hsize ▸ hlink)]

/-- Periodic contents, from the second one of two equal rows. -/
theorem periodic_contents_read_back :
    (rows [2, 1, 2, 1])[3]? = some [2, 1, 2, 1] ∧
      ∃ o c o₁,
        finish { init ⟨3, #[], #[], #[]⟩ with
          counts := tally [2, 2, 1, 1], cells := cellsOf [2, 2, 1, 1] } = .ready o ∧
        o.cells[3]? = some c ∧ (blankOutput o.cells c.link).reads 4 = .ok ([2, 1, 2, 1], o₁) := by
  have hrows : [[1, 2, 1, 2], [1, 2, 1, 2], [2, 1, 2, 1], [2, 1, 2, 1]] = rows [2, 1, 2, 1] :=
    eq_rows_of_ascending (by decide +kernel) (by decide +kernel)
  have hcolumn : lastColumn [2, 1, 2, 1] = [2, 2, 1, 1] := by
    rw [lastColumn, ← hrows]
    rfl
  have horigin : (rows [2, 1, 2, 1])[3]? = some [2, 1, 2, 1] := by
    rw [← hrows]
    rfl
  obtain ⟨o, c, hfinish, -, hc, -, o₁, o₂, hreads, -⟩ := contents_read_back (w := [2, 1, 2, 1])
    (g :=
      { init ⟨3, #[], #[], #[]⟩ with counts := tally [2, 2, 1, 1], cells := cellsOf [2, 2, 1, 1] })
    (by decide) (by decide) (by rw [hcolumn]) (by rw [hcolumn]) horigin
  exact ⟨horigin, o, c, o₁, hfinish, hc, hreads⟩

end Gathering

end Nsis.Bzip2
