import Nsis.Fault

/-!
# Signed positions

The installer's tools address items of a sequence by signed positions: a negative position counts
from the end. A slice takes what there is of the sequence, so that it never fails; the look-up of a
single item fails outside the sequence.

## Main definitions

* `Nsis.Signed.place` — how many items lie before a signed position.
* `Nsis.Signed.suffix` — the items from a position on.
* `Nsis.Signed.slice` — the items from one position up to another.
* `Nsis.Signed.get?` — the item at a position.
* `Nsis.Signed.item` — the item at a position, or why there is none.
-/

namespace Nsis.Signed

variable {α : Type}

/-- How many items lie before position `i` of a sequence, which a negative position counts from the
end. A position beyond the end stands for itself: nothing is there. -/
def place (xs : List α) (i : Int) : Nat :=
  if i < 0 then (i + xs.length).toNat else i.toNat

/-- The items from position `start` on. -/
def suffix (xs : List α) (start : Int) : List α :=
  xs.drop (place xs start)

/-- The items from position `start` up to, and without, position `stop`. -/
def slice (xs : List α) (start stop : Int) : List α :=
  (suffix xs start).take (place xs stop - place xs start)

/-- The item at position `i`, if the sequence has one there. -/
def get? (xs : List α) (i : Int) : Option α :=
  if 0 ≤ i then xs[i.toNat]?
  else if 0 ≤ i + xs.length then xs[(i + xs.length).toNat]?
  else none

/-- Whether a position fits into 64 bits. -/
def fits (i : Int) : Bool :=
  -0x8000000000000000 ≤ i ∧ i < 0x8000000000000000

/-- The item at position `i`, or why there is none: the position may not even be one. -/
def item (xs : List α) (i : Int) : Except Fault α :=
  match get? xs i with
  | some x => .ok x
  | none => .error (if fits i then .itemRange else .hugeIndex)

/-- On positions from the start, a slice takes what lies between them. -/
theorem slice_natCast (xs : List α) (i j : Nat) : slice xs i j = (xs.drop i).take (j - i) := by
  have hi : ¬ (i : Int) < 0 := by omega
  have hj : ¬ (j : Int) < 0 := by omega
  simp only [slice, suffix, place, hi, hj, if_false, Int.toNat_natCast]

end Nsis.Signed
