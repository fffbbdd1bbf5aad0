import Mathlib.Data.List.Basic
import Mathlib.Order.Nat
import Mathlib.Tactic.SplitIfs
import Nsis.Bzip2.Windows

/-!
# The windows hold a move-to-front list

Selecting an item of the sixteen windows is moving an item of a plain list to its front. The windows
stay disjoint and inside their store: each begins at least sixteen cells above the one before it,
the first one at least one cell above the bottom, and the last one ends at the top at the latest.
Since a step lets windows begin lower by at most one cell, only the first window ever comes near the
bottom, and then all of them move to the top.

## Main definitions

* `Nsis.Bzip2.nth` — an array as a function.
* `Nsis.Bzip2.Windows.item` — an item by its position in the list.
* `Nsis.Bzip2.Windows.Sound` — the windows are disjoint and inside the store.

## Main results

* `Nsis.Bzip2.Windows.take_item` — what a selection does to the items.
* `Nsis.Bzip2.Windows.take_toList` — a selection moves an item of the list to its front.
-/

namespace Nsis.Bzip2

/-! ## Arrays as functions -/

section Arrays

variable {α : Type} [Inhabited α]

/-- The cell at a place of an array; beyond its end, some default. -/
def nth (cells : Array α) (i : Nat) : α :=
  cells[i]?.getD default

/-- A cell inside an array is there. -/
lemma getElem?_eq_nth {cells : Array α} {i : Nat} (h : i < cells.size) :
    cells[i]? = some (nth cells i) := by
  simp [nth, h]

/-- Inside an array, the item at a place is that of the array. -/
lemma nth_eq_getElem {cells : Array α} {i : Nat} (h : i < cells.size) : nth cells i = cells[i] := by
  simp [nth, h]

/-- The item at a place of a function as an array is the value of the function. -/
lemma nth_ofFn {n : Nat} (f : Fin n → α) {i : Nat} (h : i < n) :
    nth (Array.ofFn f) i = f ⟨i, h⟩ := by
  simp [nth, h]

/-- A cell inside an array is replaced, and no other one. -/
lemma write?_eq_some {cells : Array α} {i : Nat} (h : i < cells.size) (a : α) :
    ∃ cells', write? cells i a = some cells' ∧ cells'.size = cells.size ∧
      ∀ j, nth cells' j = if j = i then a else nth cells j := by
  refine ⟨cells.set i a h, by rw [write?, dif_pos h], Array.size_set h, fun j => ?_⟩
  simp only [nth, Array.getElem?_set]
  split_ifs with h₁ h₂ h₂
  · rfl
  · exact absurd h₁.symm h₂
  · exact absurd h₂.symm h₁
  · rfl

end Arrays

namespace Windows

/-! ## Moving cells -/

/-- Shifting items up leaves all cells outside them as they are. -/
lemma shiftUp_eq_some (lo n : Nat) (cells : Array UInt8) (h : lo + n < cells.size) :
    ∃ cells', shiftUp lo n cells = some cells' ∧ cells'.size = cells.size ∧
      ∀ j, nth cells' j = if lo < j ∧ j ≤ lo + n then nth cells (j - 1) else nth cells j := by
  induction n generalizing cells with
  | zero =>
    refine ⟨cells, rfl, rfl, fun j => ?_⟩
    rw [if_neg (by omega)]
  | succ n ih =>
    obtain ⟨c₁, hw, hs₁, hc₁⟩ := write?_eq_some h (nth cells (lo + n))
    obtain ⟨c₂, hc₂, hs₂, hn₂⟩ := ih c₁ (by omega)
    refine ⟨c₂, ?_, hs₂.trans hs₁, fun j => ?_⟩
    · simp only [shiftUp, getElem?_eq_nth (show lo + n < cells.size by omega)]
      rw [show lo + n + 1 = lo + (n + 1) by omega, hw]
      exact hc₂
    · rw [hn₂ j, hc₁, hc₁]
      by_cases hj : j = lo + (n + 1)
      · subst hj
        rw [if_neg (by omega), if_pos rfl, if_pos (by omega), Nat.add_sub_assoc (by omega)]
        rfl
      · by_cases hin : lo < j ∧ j ≤ lo + n
        · rw [if_pos hin, if_neg (by omega), if_pos (by omega)]
        · rw [if_neg hin, if_neg hj, if_neg (by omega)]

/-- Copying items upwards, the last one first, copies all of them also when the two places
overlap. -/
lemma copyDown_eq_some (src dst n : Nat) (cells : Array UInt8) (hle : src ≤ dst)
    (h : dst + n ≤ cells.size) :
    ∃ cells', copyDown src dst n cells = some cells' ∧ cells'.size = cells.size ∧
      ∀ j, nth cells' j =
        if dst ≤ j ∧ j < dst + n then nth cells (src + (j - dst)) else nth cells j := by
  induction n generalizing cells with
  | zero =>
    refine ⟨cells, rfl, rfl, fun j => ?_⟩
    rw [if_neg (by omega)]
  | succ n ih =>
    obtain ⟨c₁, hw, hs₁, hc₁⟩ :=
      write?_eq_some (show dst + n < cells.size by omega) (nth cells (src + n))
    obtain ⟨c₂, hc₂, hs₂, hn₂⟩ := ih c₁ (by omega)
    refine ⟨c₂, ?_, hs₂.trans hs₁, fun j => ?_⟩
    · simp only [copyDown, getElem?_eq_nth (show src + n < cells.size by omega), hw, hc₂]
    · rw [hn₂ j, hc₁, hc₁]
      by_cases hj : j = dst + n
      · subst hj
        rw [if_neg (by omega), if_pos rfl, if_pos (by omega), Nat.add_sub_cancel_left]
      · by_cases hin : dst ≤ j ∧ j < dst + n
        · rw [if_pos hin, if_neg (by omega), if_pos (by omega)]
        · rw [if_neg hin, if_neg hj, if_neg (by omega)]

/-! ## Windows at a distance -/

/-- Each of the windows `0 … n` begins at least sixteen cells above the one before it. -/
def Spaced (n : Nat) (bases : Array Nat) : Prop :=
  ∀ i < n, nth bases i + windowSize ≤ nth bases (i + 1)

/-- Spaced windows are ordered. -/
lemma Spaced.le {n : Nat} {bases : Array Nat} (h : Spaced n bases) {i j : Nat} (hij : i ≤ j)
    (hj : j ≤ n) : nth bases i + windowSize * (j - i) ≤ nth bases j := by
  induction j with
  | zero =>
    obtain rfl : i = 0 := by omega
    simp
  | succ j ih =>
    rcases Nat.eq_or_lt_of_le hij with rfl | hlt
    · simp
    · have h₁ := ih (by omega) (by omega)
      have h₂ := h j (by omega)
      rw [show j + 1 - i = (j - i) + 1 by omega, Nat.mul_succ]
      omega

/-- Spaced windows are at a distance of sixteen cells. -/
lemma Spaced.lt {n : Nat} {bases : Array Nat} (h : Spaced n bases) {i j : Nat} (hij : i < j)
    (hj : j ≤ n) : nth bases i + windowSize ≤ nth bases j := by
  have h₁ := h.le hij.le hj
  have h₂ : windowSize * 1 ≤ windowSize * (j - i) := Nat.mul_le_mul_left _ (by omega)
  omega

/-- **Handing on items**: each of the windows `1 … n` begins one cell lower, and its new cell holds
the last item of the window before it.

**Proof sketch.** Induction on `n`. The cells that are read belong to lower windows than the cells
that were written before, so each holds what it held at the beginning. -/
lemma handOn_eq_some (n : Nat) (cells : Array UInt8) (bases : Array Nat) (hn : n < bases.size)
    (hsp : Spaced n bases) (htop : nth bases n ≤ cells.size) :
    ∃ cells' bases', handOn n cells bases = some (cells', bases') ∧
      cells'.size = cells.size ∧ bases'.size = bases.size ∧
      (∀ j, nth bases' j = if 1 ≤ j ∧ j ≤ n then nth bases j - 1 else nth bases j) ∧
      (∀ k, k < n → nth cells' (nth bases (k + 1) - 1) =
        nth cells (nth bases k + (windowSize - 1))) ∧
      (∀ j, (∀ k, k < n → j ≠ nth bases (k + 1) - 1) → nth cells' j = nth cells j) := by
  induction n generalizing cells bases with
  | zero =>
    refine ⟨cells, bases, rfl, rfl, rfl, fun j => ?_, fun k hk => absurd hk (by omega),
      fun _ _ => rfl⟩
    rw [if_neg (by omega)]
  | succ n ih =>
    have hw : windowSize = 16 := rfl
    have hlt := hsp n (by omega)
    obtain ⟨base, hbase⟩ : ∃ base, nth bases (n + 1) = base + 1 := ⟨nth bases (n + 1) - 1, by omega⟩
    obtain ⟨c₁, hc₁, hcs₁, hcn₁⟩ := write?_eq_some (show base < cells.size by omega)
      (nth cells (nth bases n + (windowSize - 1)))
    obtain ⟨b₁, hb₁, hbs₁, hbn₁⟩ := write?_eq_some hn base
    have hlow : ∀ j ≤ n, nth b₁ j = nth bases j := fun j hj => by
      rw [hbn₁, if_neg (by omega)]
    have hsp₁ : Spaced n b₁ := fun i hi => by
      rw [hlow i (by omega), hlow (i + 1) (by omega)]
      exact hsp i (by omega)
    obtain ⟨c₂, b₂, hrun, hcs₂, hbs₂, hbn₂, hnew, hold⟩ :=
      ih c₁ b₁ (by omega) hsp₁ (by rw [hlow n le_rfl]; omega)
    have hbelow : ∀ k, k ≤ n → nth bases k ≤ nth bases n := fun k hk => by
      have := hsp.le hk (by omega)
      omega
    refine ⟨c₂, b₂, ?_, hcs₂.trans hcs₁, hbs₂.trans hbs₁, fun j => ?_, fun k hk => ?_,
      fun j hj => ?_⟩
    · have h₁ := getElem?_eq_nth hn
      rw [hbase] at h₁
      simp only [handOn, h₁, getElem?_eq_nth (show n < bases.size by omega),
        getElem?_eq_nth (show nth bases n + (windowSize - 1) < cells.size by omega), hc₁, hb₁, hrun]
    · rw [hbn₂, hbn₁]
      by_cases hj : j = n + 1
      · subst hj
        rw [if_neg (by omega), if_pos rfl, if_pos (by omega), hbase]
        rfl
      · rw [if_neg hj]
        congr 1
        rw [eq_iff_iff]
        omega
    · rcases Nat.eq_or_lt_of_le (Nat.le_of_lt_succ hk) with rfl | hk
      · rw [hold _ fun k' hk' => ?_, hcn₁, if_pos (by omega)]
        rw [hlow (k' + 1) (by omega)]
        have := hbelow (k' + 1) (by omega)
        omega
      · have h₁ := hnew k hk
        have h₂ := hbelow (k + 1) (by omega)
        have h₃ := hsp k (by omega)
        rw [hlow (k + 1) (by omega), hlow k (by omega)] at h₁
        rw [h₁, hcn₁, if_neg (by omega)]
    · rw [hold j fun k hk => ?_, hcn₁, if_neg]
      · have := hj n (by omega)
        omega
      · rw [hlow (k + 1) (by omega)]
        exact hj k (by omega)

/-- **Moving windows to the top** keeps the items of each.

**Proof sketch.** Induction on `n`. The last window moves first, upwards or not at all, into cells
that lie above all other windows; what it leaves behind are windows that again may move to the
top. -/
lemma rebuild_eq_some (n : Nat) (cells : Array UInt8) (bases : Array Nat) (hn : n ≤ bases.size)
    (hcells : storeSize - 256 + windowSize * n ≤ cells.size)
    (hplace : ∀ i < n, nth bases i ≤ storeSize - 256 + windowSize * i)
    (hsp : Spaced (n - 1) bases) :
    ∃ cells' bases', rebuild n cells bases = some (cells', bases') ∧
      cells'.size = cells.size ∧ bases'.size = bases.size ∧
      (∀ j, nth bases' j =
        if j < n then storeSize - 256 + windowSize * j else nth bases j) ∧
      (∀ j < n, ∀ t < windowSize, nth cells' (storeSize - 256 + windowSize * j + t) =
        nth cells (nth bases j + t)) ∧
      (∀ j, storeSize - 256 + windowSize * n ≤ j → nth cells' j = nth cells j) := by
  induction n generalizing cells bases with
  | zero =>
    refine ⟨cells, bases, rfl, rfl, rfl, fun j => ?_, fun j hj => absurd hj (by omega),
      fun _ _ => rfl⟩
    rw [if_neg (by omega)]
  | succ n ih =>
    set place := storeSize - 256 + windowSize * n with hp
    have hw : windowSize = 16 := rfl
    have hnext : storeSize - 256 + windowSize * (n + 1) = place + windowSize := by
      rw [hp, Nat.mul_succ, Nat.add_assoc]
    rw [hnext] at hcells ⊢
    obtain ⟨c₁, hc₁, hcs₁, hcn₁⟩ :=
      copyDown_eq_some (nth bases n) place windowSize cells (hplace n (by omega)) hcells
    obtain ⟨b₁, hb₁, hbs₁, hbn₁⟩ := write?_eq_some (show n < bases.size by omega) place
    have hlow : ∀ j < n, nth b₁ j = nth bases j := fun j hj => by
      rw [hbn₁, if_neg (by omega)]
    obtain ⟨c₂, b₂, hrun, hcs₂, hbs₂, hbn₂, hwin, hold⟩ := ih c₁ b₁ (by omega) (by omega)
      (fun i hi => by rw [hlow i hi]; exact hplace i (by omega))
      (fun i hi => by
        rw [hlow i (by omega), hlow (i + 1) (by omega)]
        exact hsp i (by omega))
    refine ⟨c₂, b₂, ?_, hcs₂.trans hcs₁, hbs₂.trans hbs₁, fun j => ?_, fun j hj t ht => ?_,
      fun j hj => ?_⟩
    · simp only [rebuild, getElem?_eq_nth (show n < bases.size by omega), ← hp, hc₁, hb₁, hrun]
    · rw [hbn₂, hbn₁]
      by_cases hj : j = n
      · subst hj
        rw [if_neg (by omega), if_pos rfl, if_pos (by omega), hp]
      · rw [if_neg hj]
        congr 1
        rw [eq_iff_iff]
        omega
    · rcases Nat.eq_or_lt_of_le (Nat.le_of_lt_succ hj) with rfl | hj
      · rw [← hp, hold _ (by omega), hcn₁, if_pos (by omega), Nat.add_sub_cancel_left]
      · have h₁ := hsp.lt hj (show n ≤ n + 1 - 1 by omega)
        have h₂ := hplace n (by omega)
        rw [hwin j hj t ht, hlow j hj, hcn₁, if_neg (by omega)]
    · rw [hold j (by omega), hcn₁, if_neg (by omega)]

/-! ## The list of items -/

/-- The windows are disjoint and inside the store, and there is room below the first one. -/
structure Sound (w : Windows) : Prop where
  size_cells : w.cells.size = storeSize
  size_bases : w.bases.size = windowSize
  bottom : 1 ≤ nth w.bases 0
  spaced : Spaced (windowSize - 1) w.bases
  top : nth w.bases (windowSize - 1) + windowSize ≤ storeSize

/-- The item at position `i` of the list. -/
def item (w : Windows) (i : Nat) : UInt8 :=
  nth w.cells (nth w.bases (i / windowSize) + i % windowSize)

/-- At first, each window stands at its place at the end of the store. -/
lemma nth_bases_init {i : Nat} (h : i < windowSize) :
    nth init.bases i = storeSize - 256 + windowSize * i := by
  simp only [init]
  rw [nth_ofFn _ h]

/-- At the beginning, the windows are at the top of the store. -/
lemma sound_init : Sound init where
  size_cells := by simp [init]
  size_bases := by simp [init]
  bottom := by
    rw [nth_bases_init (by decide)]
    simp [storeSize]
  spaced i hi := by
    rw [nth_bases_init (by simp only [windowSize] at hi ⊢; omega),
      nth_bases_init (by simp only [windowSize] at hi ⊢; omega), Nat.mul_succ, Nat.add_assoc]
  top := by
    rw [nth_bases_init (by decide)]
    simp [storeSize, windowSize]

/-- At the beginning, each position holds its own number. -/
lemma item_init {i : Nat} (h : i < 256) : init.item i = UInt8.ofNat i := by
  have hdiv : i / windowSize < windowSize := by
    simp only [windowSize]
    omega
  have hplace : storeSize - 256 + windowSize * (i / windowSize) + i % windowSize = 3840 + i := by
    have := Nat.div_add_mod i windowSize
    simp only [storeSize] at this ⊢
    omega
  rw [item, nth_bases_init hdiv, hplace]
  have hlt : 3840 + i < storeSize := by
    simp only [storeSize]
    omega
  simp only [init]
  rw [nth_ofFn _ hlt]
  simp [storeSize]

namespace Sound

variable {w : Windows}

/-- Every window lies inside the store. -/
lemma base_le (hw : Sound w) {i : Nat} (hi : i < windowSize) :
    nth w.bases i + windowSize * (windowSize - i) ≤ storeSize := by
  have h₁ := hw.spaced.le (show i ≤ windowSize - 1 by omega) le_rfl
  have h₂ := hw.top
  rw [show windowSize - i = windowSize - 1 - i + 1 by omega, Nat.mul_succ]
  omega

/-- Every item is in a cell of the store. -/
lemma place_lt (hw : Sound w) {q t : Nat} (hq : q < windowSize) (ht : t < windowSize) :
    nth w.bases q + t < w.cells.size := by
  have h₁ := hw.base_le hq
  have h₂ : windowSize * 1 ≤ windowSize * (windowSize - q) := Nat.mul_le_mul_left _ (by omega)
  rw [hw.size_cells]
  omega

/-- Every window begins above the bottom of the store. -/
lemma base_pos (hw : Sound w) {i : Nat} (hi : i < windowSize) : 1 ≤ nth w.bases i := by
  have h₁ := hw.spaced.le (Nat.zero_le i) (show i ≤ windowSize - 1 by omega)
  have h₂ := hw.bottom
  omega

end Sound

/-- A position in the list as a position in a window. -/
lemma item_add (w : Windows) (q : Nat) {t : Nat} (ht : t < windowSize) :
    w.item (windowSize * q + t) = nth w.cells (nth w.bases q + t) := by
  have hpos : 0 < windowSize := by decide
  rw [item, Nat.mul_add_div hpos, Nat.mul_add_mod, Nat.div_eq_of_lt ht, Nat.mod_eq_of_lt ht,
    Nat.add_zero]

/-- A list of windows of equal size is one list. -/
lemma flatMap_range_map {α : Type} (f : Nat → α) (k m : Nat) :
    ((List.range m).flatMap fun q => (List.range k).map fun t => f (k * q + t)) =
      (List.range (k * m)).map f := by
  induction m with
  | zero => simp
  | succ m ih =>
    rw [List.range_succ, List.flatMap_append, ih, Nat.mul_succ, List.range_add, List.map_append,
      List.map_map]
    simp [Function.comp_def]

/-- The list that the windows hold, item by item. -/
lemma toList_eq {w : Windows} (hw : Sound w) : w.toList = (List.range 256).map w.item := by
  have hbases : w.bases.toList = (List.range windowSize).map (nth w.bases) := by
    refine List.ext_getElem (by simp [hw.size_bases]) fun i h₁ h₂ => ?_
    simp only [Array.length_toList] at h₁
    simp [nth, h₁]
  have hwindow : ∀ q < windowSize, window w.cells (nth w.bases q) =
      (List.range windowSize).map fun t => w.item (windowSize * q + t) := by
    intro q hq
    have hend := hw.place_lt hq (show windowSize - 1 < windowSize by decide)
    have hpos : 1 ≤ windowSize := by decide
    refine List.ext_getElem ?_ fun t h₁ h₂ => ?_
    · simp only [window, Array.length_toList, Array.size_extract, List.length_map,
        List.length_range]
      omega
    · have ht : t < windowSize := by simpa using h₂
      have hlt := hw.place_lt hq ht
      simp only [window, Array.getElem_toList, Array.getElem_extract, List.getElem_map,
        List.getElem_range, item_add w q ht, nth_eq_getElem hlt]
  rw [toList, hbases, List.flatMap_map]
  calc (List.range windowSize).flatMap (fun q => window w.cells (nth w.bases q))
      = (List.range windowSize).flatMap fun q =>
          (List.range windowSize).map fun t => w.item (windowSize * q + t) :=
        List.flatMap_congr fun q hq => hwindow q (List.mem_range.1 hq)
    _ = (List.range 256).map w.item := flatMap_range_map w.item windowSize windowSize

/-- The list has 256 items. -/
lemma length_toList {w : Windows} (hw : Sound w) : w.toList.length = 256 := by
  simp [toList_eq hw]

/-- The list at the beginning. -/
lemma toList_init : init.toList = (List.range 256).map UInt8.ofNat := by
  rw [toList_eq sound_init]
  exact List.map_congr_left fun i hi => item_init (List.mem_range.1 hi)

/-- The front of the list is its first item. -/
lemma front_eq {w : Windows} (hw : Sound w) : w.front = some (w.item 0) := by
  have h₁ := getElem?_eq_nth (show 0 < w.bases.size by rw [hw.size_bases]; decide)
  have h₂ := getElem?_eq_nth (hw.place_lt (q := 0) (t := 0) (by decide) (by decide))
  simp only [Nat.add_zero] at h₂
  simp [front, h₁, h₂, item]

/-! ## Selecting an item -/

/-- The items after item `n` was moved to the front of items `f`. -/
def toFront (f : Nat → UInt8) (n i : Nat) : UInt8 :=
  if i = 0 then f n else if i ≤ n then f (i - 1) else f i

/-- A position in the list lies in one of the windows. -/
lemma exists_place {i : Nat} (h : i < 256) :
    ∃ q t, q < windowSize ∧ t < windowSize ∧ i = windowSize * q + t := by
  refine ⟨i / windowSize, i % windowSize, ?_, Nat.mod_lt _ (by decide), (Nat.div_add_mod _ _).symm⟩
  simp only [windowSize]
  omega

/-- **Selecting in the first window** shifts the items before the selected one. -/
lemma takeNear_eq_some {w : Windows} (hw : Sound w) {n : Nat} (hn : n < windowSize) :
    ∃ w', takeNear n w.cells w.bases = some (w.item n, w') ∧ Sound w' ∧
      ∀ i < 256, w'.item i = toFront w.item n i := by
  have hitem : ∀ t < windowSize, w.item t = nth w.cells (nth w.bases 0 + t) := fun t ht => by
    simpa using item_add w 0 ht
  have hplace := hw.place_lt (q := 0) (by decide) hn
  have hplace₀ := hw.place_lt (q := 0) (t := 0) (by decide) (by decide)
  obtain ⟨c₁, hc₁, hs₁, hn₁⟩ := shiftUp_eq_some (nth w.bases 0) n w.cells hplace
  obtain ⟨c₂, hc₂, hs₂, hn₂⟩ :=
    write?_eq_some (show nth w.bases 0 < c₁.size by rw [hs₁]; exact hplace₀) (w.item n)
  refine ⟨⟨c₂, w.bases⟩, ?_,
    ⟨(hs₂.trans hs₁).trans hw.size_cells, hw.size_bases, hw.bottom, hw.spaced, hw.top⟩,
    fun i hi => ?_⟩
  · have hbase := getElem?_eq_nth (show 0 < w.bases.size by rw [hw.size_bases]; decide)
    have hcell := getElem?_eq_nth hplace
    rw [← hitem n hn] at hcell
    simp only [takeNear, hbase, hcell, hc₁, hc₂]
  · obtain ⟨q, t, hq, ht, rfl⟩ := exists_place hi
    rw [item_add ⟨c₂, w.bases⟩ q ht, hn₂, hn₁]
    simp only [toFront]
    rcases Nat.eq_zero_or_pos q with rfl | hpos
    · simp only [Nat.mul_zero, Nat.zero_add]
      rcases Nat.eq_zero_or_pos t with rfl | ht₀
      · rw [if_pos (Nat.add_zero _), if_pos rfl]
      · rw [if_neg (show ¬ nth w.bases 0 + t = nth w.bases 0 by omega)]
        by_cases htn : t ≤ n
        · rw [if_pos (by omega), if_neg (by omega), if_pos htn, hitem (t - 1) (by omega),
            Nat.add_sub_assoc ht₀]
        · rw [if_neg (by omega), if_neg (by omega), if_neg htn, hitem t ht]
    · have hfar := hw.spaced.lt hpos (show q ≤ windowSize - 1 by omega)
      have hmul : windowSize * 1 ≤ windowSize * q := Nat.mul_le_mul_left _ hpos
      rw [if_neg (by omega), if_neg (by omega), if_neg (by omega), if_neg (by omega),
        item_add w q ht]

/-- All windows move to the top of the store, with their items. -/
lemma exists_rebuild {cells : Array UInt8} {bases : Array Nat} (hcells : cells.size = storeSize)
    (hbases : bases.size = windowSize) (hsp : Spaced (windowSize - 1) bases)
    (htop : nth bases (windowSize - 1) + windowSize ≤ storeSize) :
    ∃ w' : Windows, rebuild windowSize cells bases = some (w'.cells, w'.bases) ∧ Sound w' ∧
      ∀ q t, q < windowSize → t < windowSize →
        w'.item (windowSize * q + t) = nth cells (nth bases q + t) := by
  obtain ⟨c, b, hrun, hs, hbs, hbn, hwin, -⟩ := rebuild_eq_some windowSize cells bases
    (by rw [hbases]) (by rw [hcells]; decide)
    (fun i hi => by
      have h₁ := hsp.le (show i ≤ windowSize - 1 by omega) le_rfl
      simp only [windowSize, storeSize] at h₁ htop hi ⊢
      omega) hsp
  have hplaces : ∀ q < windowSize, nth b q = storeSize - 256 + windowSize * q := fun q hq => by
    rw [hbn, if_pos hq]
  refine ⟨⟨c, b⟩, hrun, ⟨hs.trans hcells, hbs.trans hbases, ?_, ?_, ?_⟩, fun q t hq ht => ?_⟩
  · simp only
    rw [hplaces 0 (by decide)]
    simp [storeSize]
  · intro i hi
    simp only
    rw [hplaces i (by omega), hplaces (i + 1) (by omega), Nat.mul_succ, Nat.add_assoc]
  · simp only
    rw [hplaces _ (by decide)]
    simp [storeSize, windowSize]
  · rw [item_add ⟨c, b⟩ q ht, hplaces q hq, hwin q hq t ht]

/-- **Putting an item before the first window**, which then begins one cell lower. The last item of
the first window is not part of the list any more.

**Proof sketch.** Unless the first window reaches the bottom of the store, only its new cell is
written. Otherwise all windows move to the top, with their items (`exists_rebuild`). -/
lemma prepend_eq_some {cells : Array UInt8} {bases : Array Nat} (x : UInt8)
    (hcells : cells.size = storeSize) (hbases : bases.size = windowSize) (hbottom : 1 ≤ nth bases 0)
    (hspaced : ∀ i < windowSize - 1,
      (if i = 0 then nth bases 0 - 1 else nth bases i) + windowSize ≤ nth bases (i + 1))
    (hend : nth bases (windowSize - 1) + windowSize ≤ storeSize) :
    ∃ w', prepend x cells bases = some (x, w') ∧ Sound w' ∧
      (∀ t < windowSize, w'.item t = if t = 0 then x else nth cells (nth bases 0 + (t - 1))) ∧
      ∀ q t, 1 ≤ q → q < windowSize → t < windowSize →
        w'.item (windowSize * q + t) = nth cells (nth bases q + t) := by
  have hws : windowSize = 16 := rfl
  obtain ⟨base, hbase⟩ : ∃ base, nth bases 0 = base + 1 := ⟨nth bases 0 - 1, by omega⟩
  have hsize : 0 < bases.size := by rw [hbases]; decide
  obtain ⟨b₁, hb₁, hbs₁, hbn₁⟩ := write?_eq_some hsize base
  have hhigh : ∀ q, 1 ≤ q → nth b₁ q = nth bases q := fun q hq => by rw [hbn₁, if_neg (by omega)]
  have hlow : nth b₁ 0 = base := by rw [hbn₁, if_pos rfl]
  have hsp : Spaced (windowSize - 1) b₁ := by
    intro i hi
    have hi' := hspaced i hi
    rw [hhigh (i + 1) (by omega)]
    rcases Nat.eq_zero_or_pos i with rfl | hpos
    · rw [if_pos rfl] at hi'
      rw [hlow]
      omega
    · rw [if_neg (by omega)] at hi'
      rwa [hhigh i hpos]
  have htop : nth b₁ (windowSize - 1) + windowSize ≤ storeSize := by
    rwa [hhigh _ (by decide)]
  have hroom : base < cells.size := by
    have := hsp.le (Nat.zero_le (windowSize - 1)) le_rfl
    omega
  obtain ⟨c₁, hc₁, hs₁, hn₁⟩ := write?_eq_some hroom x
  -- whether or not the windows move, they hold what they held after the two cells were written
  obtain ⟨w', htake, hsound, hitem⟩ : ∃ w', prepend x cells bases = some (x, w') ∧ Sound w' ∧
      ∀ q t, q < windowSize → t < windowSize →
        w'.item (windowSize * q + t) = nth c₁ (nth b₁ q + t) := by
    have h₀ := getElem?_eq_nth hsize
    rw [hbase] at h₀
    simp only [prepend, h₀, hc₁, hb₁]
    by_cases hzero : base = 0
    · obtain ⟨w', hrun, hsound, hitem⟩ :=
        exists_rebuild (hs₁.trans hcells) (hbs₁.trans hbases) hsp htop
      exact ⟨w', by rw [if_pos hzero, hrun]; rfl, hsound, hitem⟩
    · exact ⟨⟨c₁, b₁⟩, by rw [if_neg hzero], ⟨hs₁.trans hcells, hbs₁.trans hbases,
        by simp only [hlow]; omega, hsp, htop⟩, fun q t _ ht => item_add ⟨c₁, b₁⟩ q ht⟩
  refine ⟨w', htake, hsound, fun t ht => ?_, fun q t hq₁ hq₂ ht => ?_⟩
  · have h₁ := hitem 0 t (by decide) ht
    rw [Nat.mul_zero, Nat.zero_add] at h₁
    rw [h₁, hlow, hn₁, hbase]
    rcases Nat.eq_zero_or_pos t with rfl | hpos
    · simp
    · rw [if_neg (by omega), if_neg (by omega)]
      congr 1
      omega
  · have hfar := hsp.lt hq₁ (show q ≤ windowSize - 1 by omega)
    rw [hlow, hhigh q hq₁] at hfar
    rw [hitem q t hq₂ ht, hhigh q hq₁, hn₁, if_neg (by omega)]

/-- The cell into which window `k` hands its last item when an item of window `line` is selected:
the gap in that window, or the one below the window behind it. -/
def gap (w : Windows) (line k : Nat) : Nat :=
  if k + 1 = line then nth w.bases line else nth w.bases (k + 1) - 1

/-- The store after the item at `off` of window `line` was taken out and each window before it has
handed its last item on. -/
structure HandedOn (w : Windows) (line off : Nat) (cells : Array UInt8) (bases : Array Nat) :
    Prop where
  size_cells : cells.size = storeSize
  size_bases : bases.size = windowSize
  base_zero : nth bases 0 = nth w.bases 0
  base_below : ∀ j, 1 ≤ j → j < line → nth bases j = nth w.bases j - 1
  base_above : ∀ j, line ≤ j → nth bases j = nth w.bases j
  gaps : ∀ k < line, nth cells (w.gap line k) = w.item (windowSize * (k + 1) - 1)
  others : ∀ j, (∀ k < line, j ≠ w.gap line k) → nth cells j =
    if nth w.bases line < j ∧ j ≤ nth w.bases line + off then nth w.cells (j - 1) else nth w.cells j

/-- Closing the gap in a window and handing on the items of the windows before it. -/
lemma exists_handedOn {w : Windows} (hw : Sound w) {line off : Nat} (hline : 1 ≤ line)
    (hl : line < windowSize) (hoff : off < windowSize) :
    ∃ c₁ b₁ c₂ b₂, shiftUp (nth w.bases line) off w.cells = some c₁ ∧
      write? w.bases line (nth w.bases line + 1) = some b₁ ∧ handOn line c₁ b₁ = some (c₂, b₂) ∧
      HandedOn w line off c₂ b₂ := by
  have hws : windowSize = 16 := rfl
  have hsize : line < w.bases.size := by rwa [hw.size_bases]
  have hplace := hw.place_lt hl hoff
  obtain ⟨c₁, hc₁, hs₁, hn₁⟩ := shiftUp_eq_some (nth w.bases line) off w.cells hplace
  obtain ⟨b₁, hb₁, hbs₁, hbn₁⟩ := write?_eq_some hsize (nth w.bases line + 1)
  have hb₁_ne : ∀ j, j ≠ line → nth b₁ j = nth w.bases j := fun j hj => by rw [hbn₁, if_neg hj]
  have hb₁_self : nth b₁ line = nth w.bases line + 1 := by rw [hbn₁, if_pos rfl]
  have hspaced : Spaced line b₁ := by
    intro i hi
    have hi' := hw.spaced i (by omega)
    rw [hb₁_ne i (by omega), hbn₁]
    split_ifs with h
    · rw [← h]
      omega
    · exact hi'
  obtain ⟨c₂, b₂, hrun, hs₂, hbs₂, hbn₂, hnew, hold⟩ := handOn_eq_some line c₁ b₁
    (by rwa [hbs₁]) hspaced (by rw [hb₁_self]; omega)
  have hgap : ∀ k < line, nth b₁ (k + 1) - 1 = w.gap line k := by
    intro k hk
    rw [gap, hbn₁]
    split_ifs <;> rfl
  refine ⟨c₁, b₁, c₂, b₂, hc₁, hb₁, hrun, ?_⟩
  exact
    { size_cells := (hs₂.trans hs₁).trans hw.size_cells
      size_bases := (hbs₂.trans hbs₁).trans hw.size_bases
      base_zero := by rw [hbn₂, if_neg (by omega), hb₁_ne 0 (by omega)]
      base_below := fun j h₁ h₂ => by rw [hbn₂, if_pos (by omega), hb₁_ne j (by omega)]
      base_above := fun j h => by
        rcases Nat.eq_or_lt_of_le h with rfl | h
        · rw [hbn₂, if_pos (by omega), hb₁_self]
          rfl
        · rw [hbn₂, if_neg (by omega), hb₁_ne j (by omega)]
      gaps := fun k hk => by
        have hitem := item_add w k (show windowSize - 1 < windowSize by decide)
        have hfar := hw.spaced.lt hk (by omega)
        rw [← hgap k hk, hnew k hk, hb₁_ne k (by omega), hn₁, if_neg (by omega), ← hitem]
        rfl
      others := fun j hj => by rw [hold j fun k hk => hgap k hk ▸ hj k hk, hn₁] }

namespace HandedOn

variable {w : Windows} {line off : Nat} {cells : Array UInt8} {bases : Array Nat}

/-- There is room for one more item before the first window. -/
lemma spaced (h : HandedOn w line off cells bases) (hw : Sound w) :
    ∀ i < windowSize - 1,
      (if i = 0 then nth bases 0 - 1 else nth bases i) + windowSize ≤ nth bases (i + 1) := by
  intro i hi
  have h₁ := hw.spaced i hi
  have h₂ := hw.base_pos (show i < windowSize by omega)
  have hlow : (if i = 0 then nth bases 0 - 1 else nth bases i) ≤ nth w.bases i ∧
      (i < line → (if i = 0 then nth bases 0 - 1 else nth bases i) + 1 ≤ nth w.bases i) := by
    split_ifs with hzero
    · subst hzero
      rw [h.base_zero]
      omega
    · rcases Nat.lt_or_ge i line with hi' | hi'
      · rw [h.base_below i (by omega) hi']
        omega
      · rw [h.base_above i hi']
        omega
  rcases Nat.lt_or_ge (i + 1) line with hi' | hi'
  · rw [h.base_below (i + 1) (by omega) hi']
    omega
  · rw [h.base_above (i + 1) hi']
    omega

/-- Windows do not overlap, and neither do gaps and the windows before them. -/
lemma ne_gap_of_lt (hw : Sound w) {q t k : Nat} (hqk : q < k + 1) (hk : k < line)
    (hl : line < windowSize) (ht : t + 1 < windowSize) : nth w.bases q + t ≠ w.gap line k := by
  have hfar := hw.spaced.lt hqk (by omega)
  rw [gap]
  split_ifs with heq
  · rw [← heq]
    omega
  · omega

/-- Cells inside a window behind a gap are no gaps. -/
lemma ne_gap_of_le (hw : Sound w) {q t k : Nat} (hkq : k + 1 ≤ q) (hq : q < windowSize)
    (hself : q = line → 1 ≤ t) : nth w.bases q + t ≠ w.gap line k := by
  have hpos := hw.base_pos hq
  rcases Nat.eq_or_lt_of_le hkq with rfl | hlt
  · rw [gap]
    split_ifs with heq
    · have := hself heq
      rw [← heq]
      omega
    · omega
  · have hfar := hw.spaced.lt hlt (by omega)
    rw [gap]
    split_ifs with heq
    · rw [← heq]
      omega
    · omega

/-- The first window keeps its items. -/
lemma item_zero (h : HandedOn w line off cells bases) (hw : Sound w) (hline : 1 ≤ line)
    (hl : line < windowSize) {t : Nat} (ht : t + 1 < windowSize) :
    nth cells (nth bases 0 + t) = w.item t := by
  have hitem := item_add w 0 (show t < windowSize by omega)
  rw [Nat.mul_zero, Nat.zero_add] at hitem
  have hfar := hw.spaced.lt (show 0 < line by omega) (by omega)
  rw [h.base_zero, hitem, h.others _ fun k hk => ne_gap_of_lt hw (Nat.succ_pos k) hk hl ht,
    if_neg (by omega)]

/-- A window before that of the selected item begins with the last item of the window before it. -/
lemma item_below (h : HandedOn w line off cells bases) (hw : Sound w) (hl : line < windowSize)
    {q t : Nat} (hq : 1 ≤ q) (hlt : q < line) (ht : t < windowSize) :
    nth cells (nth bases q + t) = w.item (windowSize * q + t - 1) := by
  have hpos := hw.base_pos (show q < windowSize by omega)
  have hmul : windowSize * 1 ≤ windowSize * q := Nat.mul_le_mul_left _ hq
  obtain ⟨k, rfl⟩ : ∃ k, q = k + 1 := ⟨q - 1, by omega⟩
  rw [h.base_below (k + 1) hq hlt]
  rcases Nat.eq_zero_or_pos t with rfl | ht₁
  · have hgaps := h.gaps k (by omega)
    rw [gap, if_neg (by omega)] at hgaps
    simp only [Nat.add_zero, hgaps]
  · have hfar := hw.spaced.lt hlt (by omega)
    rw [show windowSize * (k + 1) + t - 1 = windowSize * (k + 1) + (t - 1) by omega,
      item_add w (k + 1) (show t - 1 < windowSize by omega),
      show nth w.bases (k + 1) - 1 + t = nth w.bases (k + 1) + (t - 1) by omega,
      h.others _ fun k' hk' => ?_, if_neg (by omega)]
    rcases Nat.lt_or_ge k' (k + 1) with hlow | hhigh
    · exact ne_gap_of_le hw hlow (by omega) fun heq => by omega
    · exact ne_gap_of_lt hw (by omega) hk' hl (by omega)

/-- The window of the selected item begins with the last item of the window before it, and its items
up to the selected one move on. -/
lemma item_line (h : HandedOn w line off cells bases) (hw : Sound w) (hline : 1 ≤ line)
    (hl : line < windowSize) {t : Nat} (ht : t < windowSize) :
    nth cells (nth bases line + t) =
      if t ≤ off then w.item (windowSize * line + t - 1) else w.item (windowSize * line + t) := by
  have hmul : windowSize * 1 ≤ windowSize * line := Nat.mul_le_mul_left _ hline
  rw [h.base_above line le_rfl]
  rcases Nat.eq_zero_or_pos t with rfl | ht₁
  · obtain ⟨k, rfl⟩ : ∃ k, line = k + 1 := ⟨line - 1, by omega⟩
    have hgaps := h.gaps k (Nat.lt_succ_self k)
    rw [gap, if_pos rfl] at hgaps
    rw [if_pos (Nat.zero_le off)]
    simp only [Nat.add_zero, hgaps]
  · rw [h.others _ fun k hk => ne_gap_of_le hw hk hl fun _ => ht₁]
    by_cases hto : t ≤ off
    · rw [if_pos (by omega), if_pos hto,
        show windowSize * line + t - 1 = windowSize * line + (t - 1) by omega,
        item_add w line (show t - 1 < windowSize by omega), Nat.add_sub_assoc ht₁]
    · rw [if_neg (by omega), if_neg hto, item_add w line ht]

/-- The windows behind that of the selected item keep their items. -/
lemma item_above (h : HandedOn w line off cells bases) (hw : Sound w) (hoff : off < windowSize)
    {q t : Nat} (hgt : line < q) (hq : q < windowSize) (ht : t < windowSize) :
    nth cells (nth bases q + t) = w.item (windowSize * q + t) := by
  have hfar := hw.spaced.lt hgt (by omega)
  rw [h.base_above q hgt.le, item_add w q ht,
    h.others _ fun k hk => ne_gap_of_le hw (by omega) hq fun heq => by omega, if_neg (by omega)]

/-- **The items behind the first window** are those after the move to the front. -/
lemma item_eq (h : HandedOn w line off cells bases) (hw : Sound w) (hline : 1 ≤ line)
    (hl : line < windowSize) (hoff : off < windowSize) {q t : Nat} (hq₁ : 1 ≤ q)
    (hq : q < windowSize) (ht : t < windowSize) :
    nth cells (nth bases q + t) =
      toFront w.item (windowSize * line + off) (windowSize * q + t) := by
  have hmul : windowSize * 1 ≤ windowSize * q := Nat.mul_le_mul_left _ hq₁
  rw [toFront, if_neg (by omega)]
  rcases Nat.lt_trichotomy q line with hlt | rfl | hgt
  · have hmul' : windowSize * (q + 1) ≤ windowSize * line := Nat.mul_le_mul_left _ hlt
    rw [Nat.mul_succ] at hmul'
    rw [h.item_below hw hl hq₁ hlt ht, if_pos (by omega)]
  · rw [h.item_line hw hline hl ht]
    simp only [Nat.add_le_add_iff_left]
  · have hmul' : windowSize * (line + 1) ≤ windowSize * q := Nat.mul_le_mul_left _ hgt
    rw [Nat.mul_succ] at hmul'
    rw [h.item_above hw hoff hgt hq ht, if_neg (by omega)]

end HandedOn

/-- **Selecting in a later window** closes the gap inside the window, and each window before it
hands its last item on.

**Proof sketch.** After the shift, the window begins one cell higher and lacks one item. Handing on
(`exists_handedOn`) gives it the last item of the window before, and so on down to the first window,
before which the selected item is put (`prepend_eq_some`). -/
lemma takeFar_eq_some {w : Windows} (hw : Sound w) {line off : Nat} (hline : 1 ≤ line)
    (hl : line < windowSize) (hoff : off < windowSize) :
    ∃ w', takeFar line off w.cells w.bases = some (w.item (windowSize * line + off), w') ∧
      Sound w' ∧
      ∀ i < 256, w'.item i = toFront w.item (windowSize * line + off) i := by
  have hbase := getElem?_eq_nth (show line < w.bases.size by rw [hw.size_bases]; exact hl)
  have hcell := getElem?_eq_nth (hw.place_lt hl hoff)
  rw [← item_add w line hoff] at hcell
  obtain ⟨c₁, b₁, c₂, b₂, hc₁, hb₁, hrun, h⟩ := exists_handedOn hw hline hl hoff
  obtain ⟨w', htake, hsound, hfirst, hrest⟩ := prepend_eq_some (w.item (windowSize * line + off))
    h.size_cells h.size_bases (by rw [h.base_zero]; exact hw.bottom) (h.spaced hw)
    (by rw [h.base_above _ (by omega)]; exact hw.top)
  refine ⟨w', ?_, hsound, fun i hi => ?_⟩
  · simp only [takeFar, hbase, hcell, hc₁, hb₁, hrun, htake]
  · obtain ⟨q, t, hq, ht, rfl⟩ := exists_place hi
    rcases Nat.eq_zero_or_pos q with rfl | hq₁
    · -- the first window: the selected item, then the items it held but the last
      have hmul : windowSize * 1 ≤ windowSize * line := Nat.mul_le_mul_left _ hline
      rw [Nat.mul_zero, Nat.zero_add, hfirst t ht, toFront]
      split_ifs with hzero
      · rfl
      · exact h.item_zero hw hline hl (by omega)
      · omega
    · rw [hrest q t hq₁ hq ht]
      exact h.item_eq hw hline hl hoff hq₁ hq ht

/-- **Selecting an item** of sound windows succeeds, keeps them sound and moves the item to the
front. -/
theorem take_item {w : Windows} (hw : Sound w) {n : Nat} (hn : n < 256) :
    ∃ w', w.take n = some (w.item n, w') ∧ Sound w' ∧
      ∀ i < 256, w'.item i = toFront w.item n i := by
  obtain ⟨q, t, hq, ht, rfl⟩ := exists_place hn
  have hpos : 0 < windowSize := by decide
  by_cases hnear : windowSize * q + t < windowSize
  · obtain ⟨w', htake, hw'⟩ := takeNear_eq_some hw hnear
    refine ⟨w', ?_, hw'⟩
    rw [take, if_pos hnear, htake]
  · have hq₁ : 1 ≤ q := by
      by_contra h
      obtain rfl : q = 0 := by omega
      omega
    obtain ⟨w', htake, hw'⟩ := takeFar_eq_some hw hq₁ hq ht
    refine ⟨w', ?_, hw'⟩
    rw [take, if_neg hnear, Nat.mul_add_div hpos, Nat.mul_add_mod, Nat.div_eq_of_lt ht,
      Nat.mod_eq_of_lt ht, Nat.add_zero, htake]

/-- **Selecting an item moves it to the front of the list.** -/
theorem take_toList {w : Windows} (hw : Sound w) {n : Nat} (hn : n < 256) :
    ∃ r w', w.take n = some (r, w') ∧ Sound w' ∧ w.toList[n]? = some r ∧
      w'.toList = r :: w.toList.eraseIdx n := by
  obtain ⟨w', htake, hw', hitems⟩ := take_item hw hn
  refine ⟨w.item n, w', htake, hw', by simp [toList_eq hw, hn], ?_⟩
  rw [toList_eq hw, toList_eq hw']
  refine List.ext_getElem ?_ fun i h₁ h₂ => ?_
  · simp [List.length_eraseIdx, hn]
  · have hi : i < 256 := by simpa using h₁
    simp only [List.getElem_map, List.getElem_range, hitems i hi, toFront]
    rcases Nat.eq_zero_or_pos i with rfl | hpos
    · simp
    · obtain ⟨i, rfl⟩ : ∃ j, i = j + 1 := ⟨i - 1, by omega⟩
      simp only [List.getElem_cons_succ, List.getElem_eraseIdx, List.getElem_map,
        List.getElem_range]
      rw [if_neg (by omega)]
      by_cases hin : i < n
      · rw [if_pos (by omega), dif_pos hin, Nat.add_sub_cancel]
      · rw [if_neg (by omega), dif_neg hin]

end Windows

end Nsis.Bzip2
