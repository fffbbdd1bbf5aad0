/-!
# Move-to-front windows

The list of byte ranks that a block's symbols select from, kept so that moving an item to the front
touches few cells. The list is cut into sixteen windows of sixteen items, each somewhere in a store
of 4096 cells. An item of the first window moves by shifting the items before it. An item of a later
window closes the gap inside its window, and each window before it hands its last item on; the first
window grows downwards. When it reaches the bottom of the store, all windows move to the top.

## Main definitions

* `Nsis.Bzip2.Windows` — the store and where each window begins.
* `Nsis.Bzip2.Windows.init` — the ranks in ascending order.
* `Nsis.Bzip2.Windows.front` — the first item of the list.
* `Nsis.Bzip2.Windows.take` — select an item and move it to the front.
* `Nsis.Bzip2.Windows.toList` — the list that the windows hold.
-/

namespace Nsis.Bzip2

/-- Replace the cell at `i`, if the store has one. -/
def write? {α : Type} (cells : Array α) (i : Nat) (a : α) : Option (Array α) :=
  if h : i < cells.size then some (cells.set i a h) else none

/-- The number of items of a window, and of windows. -/
def windowSize : Nat := 16

/-- The number of cells of the store. -/
def storeSize : Nat := 4096

/-- A list of 256 ranks in sixteen windows. -/
structure Windows where
  /-- The store. -/
  cells : Array UInt8
  /-- Where each window begins. -/
  bases : Array Nat
  deriving Repr

namespace Windows

/-- The ranks in ascending order, at the top of the store. -/
def init : Windows where
  cells := Array.ofFn fun i : Fin storeSize => UInt8.ofNat (i - (storeSize - 256))
  bases := Array.ofFn fun i : Fin windowSize => storeSize - 256 + windowSize * i

/-- The items of the window that begins at `base`. -/
def window (cells : Array UInt8) (base : Nat) : List UInt8 :=
  (cells.extract base (base + windowSize)).toList

/-- The list that the windows hold. -/
def toList (w : Windows) : List UInt8 :=
  w.bases.toList.flatMap (window w.cells)

/-- The first item of the list. -/
def front (w : Windows) : Option UInt8 := do
  let base ← w.bases[0]?
  w.cells[base]?

/-- Move the `n` items from `lo` on up by one cell. -/
def shiftUp (lo : Nat) : (n : Nat) → Array UInt8 → Option (Array UInt8)
  | 0, cells => some cells
  | n + 1, cells =>
    match cells[lo + n]? with
    | none => none
    | some b =>
      match write? cells (lo + n + 1) b with
      | none => none
      | some cells => shiftUp lo n cells

/-- Let each of the windows `1 … n` begin one cell lower, with the last item of the window before it
in the new cell. -/
def handOn : (n : Nat) → Array UInt8 → Array Nat → Option (Array UInt8 × Array Nat)
  | 0, cells, bases => some (cells, bases)
  | n + 1, cells, bases =>
    match bases[n + 1]?, bases[n]? with
    | some (base + 1), some before =>
      match cells[before + (windowSize - 1)]? with
      | none => none
      | some b =>
        match write? cells base b, write? bases (n + 1) base with
        | some cells, some bases => handOn n cells bases
        | _, _ => none
    | _, _ => none

/-- Copy the `n` items from `src` on to the cells from `dst` on, the last one first. -/
def copyDown (src dst : Nat) : (n : Nat) → Array UInt8 → Option (Array UInt8)
  | 0, cells => some cells
  | n + 1, cells =>
    match cells[src + n]? with
    | none => none
    | some b =>
      match write? cells (dst + n) b with
      | none => none
      | some cells => copyDown src dst n cells

/-- Move the first `n` windows to their places at the top of the store, the last one first. -/
def rebuild : (n : Nat) → Array UInt8 → Array Nat → Option (Array UInt8 × Array Nat)
  | 0, cells, bases => some (cells, bases)
  | n + 1, cells, bases =>
    match bases[n]? with
    | none => none
    | some base =>
      let place := storeSize - 256 + windowSize * n
      match copyDown base place windowSize cells, write? bases n place with
      | some cells, some bases => rebuild n cells bases
      | _, _ => none

/-- Select item `n` of the first window and move it to the front. -/
def takeNear (n : Nat) (cells : Array UInt8) (bases : Array Nat) : Option (UInt8 × Windows) :=
  match bases[0]? with
  | none => none
  | some base =>
    match cells[base + n]? with
    | none => none
    | some item =>
      match shiftUp base n cells with
      | none => none
      | some cells =>
        match write? cells base item with
        | none => none
        | some cells => some (item, ⟨cells, bases⟩)

/-- Put an item before the first window. At the bottom of the store, all windows move to the top. -/
def prepend (item : UInt8) (cells : Array UInt8) (bases : Array Nat) : Option (UInt8 × Windows) :=
  match bases[0]? with
  | some (base + 1) =>
    match write? cells base item, write? bases 0 base with
    | some cells, some bases =>
      if base = 0 then
        (rebuild windowSize cells bases).map fun (cells, bases) => (item, ⟨cells, bases⟩)
      else some (item, ⟨cells, bases⟩)
    | _, _ => none
  | _ => none

/-- Select item `off` of window `line` and move it to the front of the first window. -/
def takeFar (line off : Nat) (cells : Array UInt8) (bases : Array Nat) : Option (UInt8 × Windows) :=
  match bases[line]? with
  | none => none
  | some base =>
    match cells[base + off]? with
    | none => none
    | some item =>
      match shiftUp base off cells, write? bases line (base + 1) with
      | some cells, some bases =>
        match handOn line cells bases with
        | none => none
        | some (cells, bases) => prepend item cells bases
      | _, _ => none

/-- Select the item at position `n` of the list and move it to the front. There is no result if a
cell outside the store would be needed. -/
def take (n : Nat) : Windows → Option (UInt8 × Windows)
  | ⟨cells, bases⟩ =>
    if n < windowSize then takeNear n cells bases
    else takeFar (n / windowSize) (n % windowSize) cells bases

end Windows

end Nsis.Bzip2
