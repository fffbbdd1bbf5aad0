import Mathlib.Data.List.Basic
import Nsis.Proofs.Bzip2.MoveToFront

/-!
# Many selections

A block selects one item of its windows after the other. However many there are, and however often
the windows move to the top of their store on the way, the items are those of a plain list from
which the same positions are selected, and after every selection the windows hold that list.

## Main definitions

* `Nsis.Bzip2.selections` — moving items of a plain list to its front, one after the other.
* `Nsis.Bzip2.Windows.takes` — selecting items of windows, one after the other.
* `Nsis.Bzip2.Windows.Apart` — windows inside their store that share no cell.

## Main results

* `Nsis.Bzip2.Windows.Sound.takes_eq_some` — the items and lists of sound windows.
* `Nsis.Bzip2.Windows.takes_init_eq_selections` — the items and lists of a block.
-/

namespace Nsis.Bzip2

/-- Move the items at some positions of a list to its front, one after the other: each of the items,
and the list after it was moved. -/
def selections (order : List UInt8) : List Nat → List (UInt8 × List UInt8)
  | [] => []
  | n :: ns =>
    let moved := order.getD n 0 :: order.eraseIdx n
    (order.getD n 0, moved) :: selections moved ns

namespace Windows

/-- Select the items at some positions, one after the other: each of the items, and the windows
after it was moved. There is no result if a cell outside the store would be needed. -/
def takes (w : Windows) : List Nat → Option (List (UInt8 × Windows))
  | [] => some []
  | n :: ns =>
    match w.take n with
    | none => none
    | some (item, moved) => (moved.takes ns).map ((item, moved) :: ·)

/-- All windows are there and inside the store, and each of them ends before the next one begins. -/
structure Apart (w : Windows) : Prop where
  size_cells : w.cells.size = storeSize
  size_bases : w.bases.size = windowSize
  inside : ∀ base ∈ w.bases, base + windowSize ≤ storeSize
  disjoint : w.bases.toList.Pairwise fun base next => base + windowSize ≤ next

namespace Sound

/-- Sound windows share no cell. -/
lemma apart {w : Windows} (hw : Sound w) : w.Apart where
  size_cells := hw.size_cells
  size_bases := hw.size_bases
  inside base hbase := by
    obtain ⟨i, hi, rfl⟩ := Array.mem_iff_getElem.1 hbase
    have hlt : i < windowSize := hw.size_bases ▸ hi
    have hend := hw.place_lt hlt (show windowSize - 1 < windowSize by decide)
    have hpos : 1 ≤ windowSize := by decide
    rw [nth_eq_getElem hi, hw.size_cells] at hend
    omega
  disjoint := by
    rw [List.pairwise_iff_getElem]
    intro i j hi hj hij
    rw [Array.length_toList] at hi hj
    have hlt : j < windowSize := hw.size_bases ▸ hj
    have hfar := hw.spaced.lt hij (show j ≤ windowSize - 1 by omega)
    rwa [nth_eq_getElem hi, nth_eq_getElem hj] at hfar

/-- **Selecting items of sound windows**, one after the other, is selecting them from the list that
the windows hold.

**Proof sketch.** Induction on the positions. One selection succeeds, leaves the windows sound, and
moves an item of their list to its front (`take_toList`); the others begin with these windows. -/
lemma takes_eq_some {w : Windows} (hw : Sound w) {ns : List Nat} (hns : ∀ n ∈ ns, n < 256) :
    ∃ trace, w.takes ns = some trace ∧
      trace.map (fun p => (p.1, p.2.toList)) = selections w.toList ns ∧ ∀ p ∈ trace, Sound p.2 := by
  induction ns generalizing w with
  | nil => exact ⟨[], rfl, rfl, by simp⟩
  | cons n ns ih =>
    obtain ⟨item, moved, htake, hmoved, hitem, hlist⟩ := take_toList hw (hns n List.mem_cons_self)
    obtain ⟨trace, htrace, hview, hsound⟩ := ih hmoved fun m hm => hns m (List.mem_cons_of_mem n hm)
    refine ⟨(item, moved) :: trace, ?_, ?_, ?_⟩
    · simp only [takes, htake, htrace, Option.map_some]
    · have hget : w.toList.getD n 0 = item := by
        rw [List.getD_eq_getElem?_getD, hitem, Option.getD_some]
      rw [List.map_cons, hview, selections, hget, hlist]
    · intro p hp
      rcases List.mem_cons.1 hp with rfl | hp
      · exact hmoved
      · exact hsound p hp

end Sound

/-- **The windows of a block hold a move-to-front list.** Whatever positions are selected, all items
are there; they are those of the list of all ranks in ascending order, from which the same positions
are selected; after each selection the windows hold that list; and the windows never share a cell or
leave the store. -/
theorem takes_init_eq_selections {ns : List Nat} (hns : ∀ n ∈ ns, n < 256) :
    ∃ trace, init.takes ns = some trace ∧
      trace.map (fun p => (p.1, p.2.toList)) = selections ((List.range 256).map UInt8.ofNat) ns ∧
      ∀ w ∈ init :: trace.map (·.2), w.Apart := by
  obtain ⟨trace, htrace, hview, hsound⟩ := sound_init.takes_eq_some hns
  rw [toList_init] at hview
  refine ⟨trace, htrace, hview, fun w hw => ?_⟩
  rcases List.mem_cons.1 hw with rfl | hw
  · exact sound_init.apart
  · obtain ⟨p, hp, rfl⟩ := List.mem_map.1 hw
    exact (hsound p hp).apart

/-- Items of the last window, of the first one and of the second one. The last selection finds an
item that the first one has pushed into the second window. -/
theorem takes_init_of_four_positions :
    (∀ n ∈ [255, 15, 0, 16], n < 256) ∧
      ∃ trace, init.takes [255, 15, 0, 16] = some trace ∧ trace.map (·.1) = [255, 14, 14, 15] ∧
        ∀ w ∈ init :: trace.map (·.2), w.Apart := by
  have hns : ∀ n ∈ [255, 15, 0, 16], n < 256 := by decide
  obtain ⟨trace, htrace, hview, hapart⟩ := takes_init_eq_selections hns
  refine ⟨hns, trace, htrace, ?_, hapart⟩
  have hitems := congrArg (List.map Prod.fst) hview
  rw [List.map_map] at hitems
  exact hitems.trans (by decide +kernel)

end Windows

end Nsis.Bzip2
