import Mathlib.Data.List.TakeDrop
import Nsis.Formula.Operator
import Nsis.Proofs.Formula.Evaluations

/-!
# Plain data in formulas

Numbers, truth values, texts and bytes stand for themselves: nothing of them is kept at an address,
and they have no functions of their own. What formulas do with them is therefore what is done with
the data as such, and it leaves the memory as it is.

## Main definitions

* `Nsis.Datum.isPlain` — whether data stand for themselves.

## Main results

* `Nsis.Evaluator.gives_holds` — plain data hold in formulas as they do alone.
* `Nsis.Evaluator.gives_related_equal`, `Nsis.Evaluator.gives_related_of_isBefore` — the relations
  of plain data.
* `Nsis.Evaluator.gives_itemOf` — the items and slices of plain data.
* `Nsis.Datum.sliced_eq` — a slice is a piece of the list.
-/

namespace Nsis

/-- Whether data stand for themselves. -/
def Datum.isPlain : Datum → Bool
  | absent | truth _ | number _ | text _ | bytes _ => true
  | _ => false

variable {m : Memory} {d d' : Datum}

namespace Datum

/-- The kinds of plain data. -/
lemma cases_of_isPlain (h : d.isPlain = true) :
    d = .absent ∨ (∃ b, d = .truth b) ∨ (∃ n, d = .number n) ∨ (∃ s, d = .text s) ∨
      ∃ b, d = .bytes b := by
  unfold isPlain at h
  split at h
  · exact .inl rfl
  · exact .inr (.inl ⟨_, rfl⟩)
  · exact .inr (.inr (.inl ⟨_, rfl⟩))
  · exact .inr (.inr (.inr (.inl ⟨_, rfl⟩)))
  · exact .inr (.inr (.inr (.inr ⟨_, rfl⟩)))
  · cases h

/-- What is made of a value is plain if everything is that can be made in this way. -/
lemma isPlain_of_map {α : Type} {f : α → Datum} (hf : ∀ a, (f a).isPlain = true)
    {r : Except Fault α} (h : f <$> r = .ok d) : d.isPlain = true := by
  cases r with
  | error c => cases h
  | ok a =>
    obtain rfl : f a = d := Except.ok.inj h
    exact hf a

/-- The items of plain data are plain. -/
lemma isPlain_of_item {group position : Datum} (h : group.isPlain = true)
    (hitem : group.item position = .ok d) : d.isPlain = true := by
  obtain rfl | ⟨_, rfl⟩ | ⟨_, rfl⟩ | ⟨s, rfl⟩ | ⟨b, rfl⟩ := cases_of_isPlain h
  · cases hitem
  · cases hitem
  · cases hitem
  -- texts and bytes have items at numbers and slices only
  · cases position <;> first | cases hitem | exact isPlain_of_map (fun _ => rfl) hitem
  · cases position <;> first | cases hitem | exact isPlain_of_map (fun _ => rfl) hitem

end Datum

/-! ## Memory -/

namespace Memory

/-- Plain data stand for themselves, whatever the memory. -/
lemma opened_of_isPlain (h : d.isPlain = true) : m.opened d = d := by
  obtain rfl | ⟨_, rfl⟩ | ⟨_, rfl⟩ | ⟨_, rfl⟩ | ⟨_, rfl⟩ := Datum.cases_of_isPlain h <;>
    simp only [opened, facet?, withCurrentType, ite_self]

/-- There are no addresses in plain data. -/
lemma settle_of_isPlain (h : d.isPlain = true) (fuel : Nat) (within : List Nat) :
    m.settle fuel within d = d := by
  cases fuel with
  | zero => rfl
  | succ fuel =>
    obtain rfl | ⟨_, rfl⟩ | ⟨_, rfl⟩ | ⟨_, rfl⟩ | ⟨_, rfl⟩ := Datum.cases_of_isPlain h <;> rfl

/-- There are no addresses in slices between plain bounds. -/
lemma settled_slice {start stop step : Datum} (hstart : start.isPlain = true)
    (hstop : stop.isPlain = true) (hstep : step.isPlain = true) :
    m.settled (.slice start stop step) = .slice start stop step := by
  show Datum.slice _ _ _ = _
  rw [settle_of_isPlain hstart, settle_of_isPlain hstop, settle_of_isPlain hstep]

end Memory

namespace Evaluation

/-- Plain data are there as they are, whatever the memory. -/
lemma gives_opened (h : d.isPlain = true) : (opened d).Gives m (.ok d) :=
  (congrArg (fun d => (Except.ok d, m)) (Memory.opened_of_isPlain h) :)

/-- There is nothing at addresses in plain data. -/
lemma gives_settled (h : d.isPlain = true) : (settled d).Gives m (.ok d) :=
  (congrArg (fun d => (Except.ok d, m)) (Memory.settle_of_isPlain h Memory.room []) :)

/-- Plain data are stored as they are. -/
lemma gives_stored (h : d.isPlain = true) : (stored d).Gives m (.ok d) := by
  obtain rfl | ⟨_, rfl⟩ | ⟨_, rfl⟩ | ⟨_, rfl⟩ | ⟨_, rfl⟩ := Datum.cases_of_isPlain h <;>
    exact .pure _

end Evaluation

namespace Evaluator

variable (e : Evaluator)

/-! ## Truth and relations -/

/-- Plain data have no functions of their own. -/
lemma gives_callOwn? (h : d.isPlain = true) (name : String) (args : List Datum) :
    (e.callOwn? d name args).Gives m (.ok none) := by
  have hown : (own? d name).Gives m (.ok none) := by
    refine (Evaluation.gives_opened h).bind ?_
    obtain rfl | ⟨_, rfl⟩ | ⟨_, rfl⟩ | ⟨_, rfl⟩ | ⟨_, rfl⟩ := Datum.cases_of_isPlain h <;>
      exact .pure none
  exact hown.bind (.pure none)

/-- Plain data hold in formulas as they do alone. -/
lemma gives_holds (h : d.isPlain = true) : (e.holds d).Gives m (.ok d.holds) :=
  (e.gives_callOwn? h "__bool__" []).bind <| (e.gives_callOwn? h "__len__" []).bind <|
    (Evaluation.gives_opened h).bind (.pure _)

/-- Plain data have no operations of their own. -/
lemma gives_ownOperation? (h : d.isPlain = true) (h' : d'.isPlain = true)
    (name reflected : String) : (e.ownOperation? name reflected d d').Gives m (.ok none) :=
  (e.gives_callOwn? h name [d']).bind ((e.gives_callOwn? h' reflected [d]).bind (.pure none))

/-- Plain data are equal in formulas if they are the same or equal alone. -/
lemma gives_areEqual (h : d.isPlain = true) (h' : d'.isPlain = true) :
    (e.areEqual d d').Gives m (.ok (isSame d d' || d.equals d')) := by
  unfold areEqual
  cases isSame d d' with
  | true => exact .pure true
  | false =>
    exact (e.gives_ownOperation? h h' "__eq__" "__eq__").bind <|
      (Evaluation.gives_settled h).bind ((Evaluation.gives_settled h').bind (.pure _))

/-- The equality of plain data in formulas. -/
lemma gives_related_equal (h : d.isPlain = true) (h' : d'.isPlain = true) :
    (e.related .equal d d').Gives m (.ok (.truth (isSame d d' || d.equals d'))) :=
  (e.gives_ownOperation? h h' _ _).bind ((e.gives_areEqual h h').bind (.pure _))

/-- The order of plain data in formulas. -/
lemma gives_related_of_isBefore {r : Relation} {b : Bool} (h : d.isPlain = true)
    (h' : d'.isPlain = true) (hr : r ∈ [Relation.less, .lessEqual, .greater, .greaterEqual])
    (hb : d.isBefore r d' = .ok b) : (e.related r d d').Gives m (.ok (.truth b)) := by
  have hbefore : (liftM (d.isBefore r d') : Evaluation Bool).Gives m (.ok b) := by
    rw [hb]
    exact .lift _
  simp only [List.mem_cons, List.not_mem_nil, or_false] at hr
  rcases hr with rfl | rfl | rfl | rfl <;>
    exact (e.gives_ownOperation? h h' _ _).bind <| (Evaluation.gives_settled h).bind <|
      (Evaluation.gives_settled h').bind (hbefore.bind (.pure _))

/-! ## Items -/

/-- An item of plain data in formulas. -/
lemma gives_itemOf {group position : Datum} (h : group.isPlain = true)
    (hposition : m.settled position = position) :
    (e.itemOf group position).Gives m (group.item position) := by
  have hsettled : (Evaluation.settled position).Gives m (.ok position) :=
    congrArg (fun d => (Except.ok d, m)) hposition
  have hitem : (do Evaluation.stored (← group.item (← Evaluation.settled position))).Gives m
      (group.item position) := by
    refine hsettled.bind ?_
    cases hd : group.item position with
    | error f => exact (Evaluation.Gives.lift _).bind_error
    | ok d =>
      have hplain := Datum.isPlain_of_item h hd
      exact (Evaluation.Gives.lift _).bind (Evaluation.gives_stored hplain)
  refine (e.gives_callOwn? h "__getitem__" [position]).bind ?_
  refine (Evaluation.gives_opened h).bind ?_
  obtain rfl | ⟨_, rfl⟩ | ⟨_, rfl⟩ | ⟨_, rfl⟩ | ⟨_, rfl⟩ := Datum.cases_of_isPlain h <;>
    exact hitem

end Evaluator

/-! ## Numbers -/

namespace Datum

/-- Numbers are equal data if they are equal. -/
lemma equals_numbers (k n : Int) : equals (number k) (number n) = decide (k = n) := by
  simp [equals, compareNumbers, number?]

/-- A number is before another one if it is less. -/
lemma isBefore_less_numbers (k n : Int) :
    isBefore .less (number k) (number n) = .ok (decide (k < n)) := by
  simp only [isBefore, compareNumbers, number?, Option.any_some, isIn]
  simp [Int.compare_eq_lt]

/-- A number is before another one or equal to it if it is not more. -/
lemma isBefore_lessEqual_numbers (k n : Int) :
    isBefore .lessEqual (number k) (number n) = .ok (decide (k ≤ n)) := by
  simp only [isBefore, compareNumbers, number?, Option.any_some, isIn]
  simp [Int.compare_eq_gt]

/-! ## Slices -/

/-- The items at neighbouring positions are the ones between the first and the last of them. -/
lemma filterMap_range' {α : Type} (xs : List α) (start n : Nat) :
    (List.range' start n).filterMap (xs[·]?) = (xs.drop start).take n := by
  induction n generalizing start with
  | zero => rfl
  | succ n ih =>
    rw [List.range'_succ, List.filterMap_cons, ih]
    by_cases h : start < xs.length
    · rw [List.getElem?_eq_getElem h, List.drop_eq_getElem_cons h, List.take_succ_cons]
    · have hdrop : xs.drop start = [] := List.drop_eq_nil_of_le (by omega)
      have hnext : xs.drop (start + 1) = [] := List.drop_eq_nil_of_le (by omega)
      rw [List.getElem?_eq_none (by omega), hdrop, hnext, List.take_nil, List.take_nil]

/-- A slice in steps of one has neighbouring positions. -/
lemma positions_one (i : Nat) (stop : Option Nat) (n : Nat) :
    positions (some i) (stop.map Int.ofNat) 1 n =
      List.range' (min i n) (min (stop.getD n) n - min i n) := by
  have hclamped (k : Nat) : clamped n 0 n (k : Int) = (min k n : Nat) := by
    unfold clamped
    omega
  have hlast : ((stop.map Int.ofNat).map (clamped n 0 n)).getD n = (min (stop.getD n) n : Nat) := by
    cases stop with
    | none => simp
    | some k => exact hclamped k
  have hsize (a b : Nat) : rangeSize a b 1 = b - a := by
    rw [rangeSize, if_neg (by decide), if_pos (by decide)]
    omega
  have hone : ¬ (1 : Int) < 0 := by decide
  simp only [positions, hone, if_false, Option.map_some, Option.getD_some, hclamped, hlast, hsize]
  rw [List.range'_eq_map_range]
  refine List.map_congr_left fun k _ => ?_
  omega

/-- A slice of a list from a position that is counted from its start. -/
lemma sliced_eq {α : Type} (xs : List α) (i : Nat) {stop : Datum} {j : Option Nat}
    (hstop : bound stop = .ok (j.map Int.ofNat)) :
    sliced xs (.number i) stop .absent = .ok ((xs.drop i).take (j.getD xs.length - i)) := by
  have hstart : bound (.number i) = .ok (some (i : Int)) := rfl
  have hstep : bound .absent = .ok none := rfl
  unfold sliced
  rw [hstop, hstart, hstep]
  show Except.ok ((positions (some i) (j.map Int.ofNat) 1 xs.toArray.size).filterMap
    (xs.toArray[·]?)) = _
  simp only [List.getElem?_toArray, List.size_toArray]
  rw [positions_one, filterMap_range']
  congr 1
  by_cases hi : i ≤ xs.length
  · rw [Nat.min_eq_left hi, List.take_eq_take_iff, List.length_drop]
    omega
  · have hmin : min i xs.length = xs.length := by omega
    have hdrop : xs.drop i = [] := List.drop_eq_nil_of_le (by omega)
    rw [hmin, List.drop_length, hdrop, List.take_nil, List.take_nil]

end Datum

end Nsis
