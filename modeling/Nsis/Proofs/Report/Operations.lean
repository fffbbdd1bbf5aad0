import Nsis.Proofs.Formula.PlainData
import Nsis.Report.Operation

/-!
# Recognising a method of packing in formulas

The operations of formulas take data of any kind, and those that recognise a method of packing ask
for items, slices and relations of them as formulas do. On bytes they say what the recognition of an
image says, with the same faults, and they leave the memory as it is.

## Main results

* `Nsis.Report.gives_operate_lzma` — whether bytes look like an LZMA stream.
* `Nsis.Report.gives_operate_bzip2` — whether bytes look like a block-sorted stream.
-/

namespace Nsis.Report

open Evaluation

variable {m : Memory} (e : Evaluator) (b : Bytes)

/-! ## Bytes -/

/-- A byte at a position that can be one. -/
lemma itemAt_byteRange {i : Nat} (hi : i < 0x8000000000000000) : Datum.itemAt .byteRange b i = byteAt b i := by
  have hget : Signed.get? b i = b[i]? := by
    rw [Signed.get?, if_pos (Int.natCast_nonneg i), Int.toNat_natCast]
  have hfits : Signed.fits i = true := by
    simp only [Signed.fits, decide_eq_true_eq]
    omega
  rw [Datum.itemAt, Signed.item, hget, byteAt, hfits]
  cases b[i]? <;> rfl

/-- A byte is asked for as a number. -/
lemma gives_itemAt {i : Nat} (hi : i < 0x8000000000000000) :
    (itemAt e (.bytes b) i).Gives m (Datum.ofByte <$> byteAt b i) := by
  rw [← itemAt_byteRange b hi]
  exact e.gives_itemOf rfl (Memory.settle_of_isPlain rfl _ _)

/-- The first bytes are asked for as a slice. -/
lemma gives_take (n : Nat) :
    (e.itemOf (.bytes b) (.slice (.number 0) (.number n) .absent)).Gives m
      (.ok (.bytes (b.take n))) := by
  have hitem : Datum.item (.bytes b) (.slice (.number 0) (.number n) .absent) =
      .ok (.bytes (b.take n)) :=
    congrArg (Datum.bytes <$> ·) (Datum.sliced_eq b 0 (j := some n) rfl)
  rw [← hitem]
  exact e.gives_itemOf rfl (Memory.settled_slice rfl rfl rfl)

/-- The bytes behind the first ones are asked for as a slice. -/
lemma gives_itemsFrom (n : Nat) :
    (itemsFrom e (.bytes b) n).Gives m (.ok (.bytes (b.drop n))) := by
  have hsliced : Datum.sliced b (.number n) .absent .absent = .ok (b.drop n) := by
    rw [Datum.sliced_eq b n (j := none) rfl, List.take_of_length_le]
    simp
  have hitem : Datum.item (.bytes b) (.slice (.number n) .absent .absent) =
      .ok (.bytes (b.drop n)) :=
    congrArg (Datum.bytes <$> ·) hsliced
  rw [← hitem]
  exact e.gives_itemOf rfl (Memory.settled_slice rfl rfl rfl)

/-! ## Relations -/

/-- Bytes are equal in formulas if they are equal. -/
lemma gives_equal_bytes (c : Bytes) :
    (e.related .equal (.bytes b) (.bytes c)).Gives m (.ok (.truth (b = c))) := by
  have hsame : (Evaluator.isSame (.bytes b) (.bytes c) ||
      Datum.equals (.bytes b) (.bytes c)) = decide (b = c) :=
    Bool.or_self _
  rw [← hsame]
  exact e.gives_related_equal rfl rfl

/-- Numbers are equal in formulas if they are equal. -/
lemma gives_equal_numbers (k n : Int) :
    (e.related .equal (.number k) (.number n)).Gives m (.ok (.truth (k = n))) := by
  have hsame : (Evaluator.isSame (.number k) (.number n) ||
      Datum.equals (.number k) (.number n)) = decide (k = n) := by
    rw [Datum.equals_numbers]
    exact Bool.or_self _
  rw [← hsame]
  exact e.gives_related_equal rfl rfl

variable (x y : UInt8)

/-- A byte is equal to another one in formulas if it is. -/
lemma gives_equal_byte :
    (e.related .equal (.number x.toNat) (.number y.toNat)).Gives m (.ok (.truth (x = y))) := by
  have hiff : (x.toNat : Int) = y.toNat ↔ x = y := by
    rw [Int.ofNat_inj, UInt8.toNat_inj]
  have hequal := gives_equal_numbers (m := m) e x.toNat y.toNat
  simpa only [hiff] using hequal

/-- A byte is less than another one in formulas if it is. -/
lemma gives_less_byte :
    (e.related .less (.number x.toNat) (.number y.toNat)).Gives m (.ok (.truth (x < y))) := by
  have hless := Datum.isBefore_less_numbers x.toNat y.toNat
  simp only [Int.ofNat_lt, ← UInt8.lt_iff_toNat_lt] at hless
  exact e.gives_related_of_isBefore rfl rfl (by decide) hless

/-- A byte is not more than another one in formulas if it is not. -/
lemma gives_lessEqual_byte :
    (e.related .lessEqual (.number x.toNat) (.number y.toNat)).Gives m (.ok (.truth (x ≤ y))) := by
  have hless := Datum.isBefore_lessEqual_numbers x.toNat y.toNat
  simp only [Int.ofNat_le, ← UInt8.le_iff_toNat_le] at hless
  exact e.gives_related_of_isBefore rfl rfl (by decide) hless

/-- Bytes have no bits in common in formulas if they have none. -/
lemma gives_disjoint_byte :
    (e.combined .bitwiseAnd (.number x.toNat) (.number y.toNat) >>= fun d =>
      e.related .equal d (.number 0)).Gives m (.ok (.truth (x &&& y = 0))) := by
  have hiff : Bits.both x.toNat y.toNat = 0 ↔ x &&& y = 0 := by
    rw [← UInt8.toNat_inj, UInt8.toNat_and]
    exact Int.ofNat_inj (n := 0)
  have hequal := gives_equal_numbers (m := m) e (Bits.both x.toNat y.toNat) 0
  simp only [hiff] at hequal
  exact (Gives.lift _).bind hequal

/-! ## Recognition -/

/-- What is behind a look at a byte. -/
lemma gives_bind_itemAt {i : Nat} (hi : i < 0x8000000000000000) {f : Datum → Evaluation Datum}
    {g : UInt8 → Except Fault Bool}
    (hf : ∀ x : UInt8, (f (.number x.toNat)).Gives m (Datum.truth <$> g x)) :
    (itemAt e (.bytes b) i >>= f).Gives m (Datum.truth <$> (byteAt b i >>= g)) := by
  have hitem := gives_itemAt (m := m) e b hi
  cases hbyte : byteAt b i with
  | error c =>
    rw [hbyte] at hitem
    exact hitem.bind_error
  | ok x =>
    rw [hbyte] at hitem
    exact hitem.bind (hf x)

/-- What is behind a condition that has to hold. -/
lemma gives_bind_condition {p : Prop} [Decidable p] {condition rest : Evaluation Datum}
    {r : Except Fault Bool} (hcondition : condition.Gives m (.ok (.truth p)))
    (hrest : rest.Gives m (Datum.truth <$> r)) :
    (condition >>= fun d => e.holds d >>= fun h => if !h then pure d else rest).Gives m
      (Datum.truth <$> if ¬p then pure false else r) := by
  refine hcondition.bind ((e.gives_holds rfl).bind ?_)
  by_cases hp : p
  · simpa only [Datum.holds, hp, decide_true, Bool.not_true, Bool.false_eq_true, if_false,
      not_true_eq_false] using hrest
  · simp only [Datum.holds, hp, decide_false, Bool.not_false, if_true, not_false_eq_true]
    exact .pure _

/-- Bytes begin like an LZMA stream in formulas if they do so in an image. -/
lemma gives_hasLzmaHead :
    (hasLzmaHead e (.bytes b)).Gives m (Datum.truth <$> hasLzmaStart b) := by
  refine (gives_take e b 3).bind ?_
  refine gives_bind_condition e (gives_equal_bytes e _ _) ?_
  refine gives_bind_itemAt e b (by decide) fun zero => ?_
  refine gives_bind_condition e (gives_equal_byte e zero 0) ?_
  exact gives_bind_itemAt e b (by decide) fun next => gives_disjoint_byte e next 0x80

/-- Bytes look like an LZMA stream in formulas if they do so in an image. -/
lemma gives_showsLzma : (showsLzma e (.bytes b)).Gives m (Datum.truth <$> looksLikeLzma b) := by
  have hhead := gives_hasLzmaHead (m := m) e b
  unfold showsLzma looksLikeLzma
  cases hstart : hasLzmaStart b with
  | error c =>
    rw [hstart] at hhead
    exact hhead.bind_error
  | ok p =>
    rw [hstart] at hhead
    refine hhead.bind ((e.gives_holds rfl).bind ?_)
    cases p with
    | true => exact .pure _
    | false =>
      -- only now the first byte is taken for that of a filter
      refine gives_bind_itemAt e b (by decide) fun filter => ?_
      have hfilter := gives_bind_condition e (gives_lessEqual_byte e filter 1)
        ((gives_itemsFrom e b 1).bind (gives_hasLzmaHead (m := m) e (b.drop 1)))
      rw [ite_not] at hfilter
      exact hfilter

/-- Bytes look like a block-sorted stream in formulas if they do so in an image. -/
lemma gives_showsBzip2 : (showsBzip2 e (.bytes b)).Gives m (Datum.truth <$> looksLikeBzip2 b) := by
  refine gives_bind_itemAt e b (by decide) fun mark => ?_
  refine gives_bind_condition e (gives_equal_byte e mark 0x31) ?_
  exact gives_bind_itemAt e b (by decide) fun high => gives_less_byte e high 0x0e

/-- **In formulas, bytes look like an LZMA stream if they do so in an image.** -/
theorem gives_operate_lzma :
    (operate e "_is_lzma" [("data", .bytes b)]).Gives m (Datum.truth <$> looksLikeLzma b) :=
  gives_showsLzma e b

/-- **In formulas, bytes look like a block-sorted stream if they do so in an image.** -/
theorem gives_operate_bzip2 :
    (operate e "_is_bzip2" [("data", .bytes b)]).Gives m (Datum.truth <$> looksLikeBzip2 b) :=
  gives_showsBzip2 e b

end Nsis.Report
