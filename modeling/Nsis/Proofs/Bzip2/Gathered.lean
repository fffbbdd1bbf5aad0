import Mathlib.Data.List.Basic
import Mathlib.Tactic.SplitIfs
import Nsis.Proofs.Bzip2.Columns

/-!
# What a gathering shows

While a block is gathered, its windows show the bytes that occur in the block, the last used one
first, and its cells and counts show the column of the bytes gathered so far. A run adds copies of
the first byte to the column; a literal adds the byte at its position and moves it to the front.
Neither needs a cell that is not there.

## Main definitions

* `Nsis.Bzip2.Gathering.Shows` — the order of the bytes and the column that a gathering shows.

## Main results

* `Nsis.Bzip2.Gathering.shows_init` — at the beginning.
* `Nsis.Bzip2.Gathering.Shows.flush_eq_ok`, `Nsis.Bzip2.Gathering.Shows.flush_eq_error` — the end of
  a run.
* `Nsis.Bzip2.Gathering.Shows.literal_eq_ok`, `Nsis.Bzip2.Gathering.Shows.literal_eq_error` — a
  literal.
-/

namespace Nsis.Bzip2.Gathering

/-- The bytes that occur in a block, in the order of their last use, and the column gathered so far,
as far as a gathering shows them. -/
structure Shows (g : Gathering) (order column : Bytes) : Prop where
  sound : g.windows.Sound
  size_used : g.plan.used.size ≤ 256
  length_order : order.length = g.plan.used.size
  used_eq : ∀ i < g.plan.used.size,
    (g.windows.toList[i]?.bind fun r => g.plan.used[r.toNat]?) = order[i]?
  cells_eq : g.cells = cellsOf column
  counts_eq : g.counts = tally column
  length_le : column.length ≤ maxBlock

/-- At the beginning, the bytes are in ascending order, and the column is empty. -/
lemma shows_init {plan : Plan} (h : plan.used.size ≤ 256) :
    Shows (init plan) plan.used.toList [] where
  sound := Windows.sound_init
  size_used := h
  length_order := by simp [init]
  used_eq i hi := by
    have hi' : i < plan.used.size := hi
    have hbyte : (UInt8.ofNat i).toNat = i := by
      rw [UInt8.toNat_ofNat']
      omega
    simp only [init, Windows.toList_init]
    rw [List.getElem?_map, List.getElem?_range (by omega), Option.map_some, Option.bind_some, hbyte,
      Array.getElem?_toList]
  cells_eq := rfl
  counts_eq := tally_nil.symm
  length_le := by simp

namespace Shows

variable {g : Gathering} {order column : Bytes}

/-- What is shown does not depend on the group or the run. -/
lemma congr (h : Shows g order column) {g' : Gathering} (hplan : g'.plan = g.plan)
    (hwindows : g'.windows = g.windows) (hcounts : g'.counts = g.counts)
    (hcells : g'.cells = g.cells) : Shows g' order column where
  sound := hwindows ▸ h.sound
  size_used := hplan ▸ h.size_used
  length_order := hplan ▸ h.length_order
  used_eq := by rw [hplan, hwindows]; exact h.used_eq
  cells_eq := hcells.trans h.cells_eq
  counts_eq := hcounts.trans h.counts_eq
  length_le := h.length_le

/-- The front of the windows is the first byte of the order. -/
lemma front_eq {b : UInt8} (h : Shows g (b :: order) column) :
    (g.windows.front.bind fun r => g.plan.used[r.toNat]?) = some b := by
  have hpos : 0 < g.plan.used.size := by
    rw [← h.length_order]
    exact Nat.succ_pos _
  have hzero := h.used_eq 0 hpos
  rwa [Windows.toList_eq h.sound, List.getElem?_map, List.getElem?_range (by decide),
    Option.map_some, ← Windows.front_eq h.sound] at hzero

/-- **A run adds copies of the first byte.** -/
lemma flush_eq_ok {b : UInt8} (h : Shows g (b :: order) column)
    (hfit : column.length + (g.run + 1).toNat ≤ maxBlock) :
    ∃ g', g.flush = .ok g' ∧
      g' = { g with run := 0, counts := g'.counts, cells := g'.cells } ∧
      Shows g' (b :: order) (column ++ List.replicate (g.run + 1).toNat b) := by
  obtain ⟨plan, table, group, left, run, weight, windows, counts, cells⟩ := g
  have hfront := h.front_eq
  have hcells := h.cells_eq
  have hcounts := h.counts_eq
  simp only at hfront hcells hcounts hfit
  have hroom : (run + 1).toNat ≤ maxBlock - cells.size := by
    rw [hcells, size_cellsOf]
    omega
  simp only [flush, hfront, if_pos hroom, Nat.min_eq_left hroom]
  refine ⟨_, rfl, rfl, ?_⟩
  exact
    { sound := h.sound
      size_used := h.size_used
      length_order := h.length_order
      used_eq := h.used_eq
      cells_eq := by simp [hcells, cellsOf]
      counts_eq := by simp only [hcounts, tally_modify]
      length_le := by simpa using hfit }

/-- A run that does not fit into the block fails. -/
lemma flush_eq_error {b : UInt8} (h : Shows g (b :: order) column)
    (hfull : maxBlock < column.length + (g.run + 1).toNat) :
    ∃ g', g.flush = .error (.dataError, g') := by
  obtain ⟨plan, table, group, left, run, weight, windows, counts, cells⟩ := g
  have hfront := h.front_eq
  have hcells := h.cells_eq
  have hle := h.length_le
  simp only at hfront hcells hfull
  have hroom : ¬ (run + 1).toNat ≤ maxBlock - cells.size := by
    rw [hcells, size_cellsOf]
    omega
  simp only [flush, hfront, if_neg hroom]
  exact ⟨_, rfl⟩

/-- **A literal adds the byte at its position**, which becomes the first byte. -/
lemma literal_eq_ok {n : Nat} {b : UInt8} (h : Shows g order column) (hb : order[n]? = some b)
    (hfit : column.length < maxBlock) :
    ∃ g', g.literal n = .ok g' ∧
      g' = { g with windows := g'.windows, counts := g'.counts, cells := g'.cells } ∧
      Shows g' (b :: order.eraseIdx n) (column ++ [b]) := by
  obtain ⟨plan, table, group, left, run, weight, windows, counts, cells⟩ := g
  have hn : n < plan.used.size := by
    rw [← h.length_order]
    exact (List.getElem?_eq_some_iff.1 hb).1
  have hused : plan.used.size ≤ 256 := h.size_used
  have hcells : cells = cellsOf column := h.cells_eq
  have hcounts : counts = tally column := h.counts_eq
  obtain ⟨r, windows', htake, hsound, hr, hlist⟩ := Windows.take_toList h.sound (hn.trans_le hused)
  have hbyte : plan.used[r.toNat]? = some b := by
    have hitem := h.used_eq n hn
    rwa [hr, hb] at hitem
  have hroom : ¬ maxBlock ≤ cells.size := by
    rw [hcells, size_cellsOf]
    omega
  simp only [literal, if_neg hroom, htake, hbyte]
  refine ⟨_, rfl, rfl, ?_⟩
  exact
    { sound := hsound
      size_used := hused
      length_order := by
        have hlen : order.length = plan.used.size := h.length_order
        rw [List.length_cons, List.length_eraseIdx_of_lt (by omega), hlen]
        exact Nat.succ_pred_eq_of_pos (Nat.zero_lt_of_lt hn)
      used_eq := fun i hi => by
        -- the items before the selected one move on by one
        rw [hlist]
        cases i with
        | zero => simpa using hbyte
        | succ i =>
          simp only [List.getElem?_cons_succ, List.getElem?_eraseIdx]
          split_ifs
          · exact h.used_eq i (Nat.lt_of_succ_lt hi)
          · exact h.used_eq (i + 1) hi
      cells_eq := by simp [hcells, cellsOf]
      counts_eq := by
        simp only [hcounts, tally_modify]
        rfl
      length_le := by
        rw [List.length_append]
        exact hfit }

/-- A literal that does not fit into the block fails. -/
lemma literal_eq_error (h : Shows g order column) (n : Nat) (hfull : maxBlock ≤ column.length) :
    ∃ g', g.literal n = .error (.dataError, g') := by
  obtain ⟨plan, table, group, left, run, weight, windows, counts, cells⟩ := g
  have hcells : cells = cellsOf column := h.cells_eq
  rw [literal, if_pos (by rw [hcells, size_cellsOf]; exact hfull)]
  exact ⟨_, rfl⟩

/-- A gathered block is linked, unless its row is outside of it. -/
lemma finish_eq (h : Shows g order column) :
    g.finish =
      if column.length ≤ g.plan.origin.toNat then .badOrigin g
      else link g.plan.origin.toNat (tally column) (cellsOf column) := by
  rw [finish, h.cells_eq, h.counts_eq, size_cellsOf]

end Shows

end Nsis.Bzip2.Gathering
