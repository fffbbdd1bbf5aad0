import Mathlib.Data.List.Basic
import Mathlib.Tactic.IntervalCases
import Nsis.Text.Numeral

/-!
# Hexadecimal numerals are read again

Numbers are written in hexadecimal in two ways, as short as possible or filled with zeros, and the
minus sign stands at different places. Both are read again: the digits determine the number whatever
zeros stand before them, and no digit is a sign, a blank or a comma. So a numeral also ends where
one of these follows, and a list of numerals with commas between them is read again as well.

## Main definitions

* `Nsis.Text.hexValue` — the number that hexadecimal digits denote.

## Main results

* `Nsis.Text.hexValue_padded` — digits are read again, whatever zeros stand before them.
* `Nsis.Text.hex_injective`, `Nsis.Text.hexWord_injective` — numerals are read again.
* `Nsis.Text.intercalate_hex_injective` — lists of numerals are read again.
-/

namespace Nsis.Text

/-! ## Digits -/

/-- The number that a hexadecimal digit denotes. -/
def digitValue (c : Char) : Nat :=
  if c.isDigit then c.toNat - '0'.toNat else c.toNat - 'a'.toNat + 10

/-- The number that hexadecimal digits denote, the most significant first. -/
def hexValue (cs : List Char) : Nat :=
  cs.foldl (fun n c => 16 * n + digitValue c) 0

/-- A digit denotes the number that it was made for. -/
lemma digitValue_digitChar {n : Nat} (h : n < 16) : digitValue n.digitChar = n := by
  interval_cases n <;> rfl

/-- A further digit adds to sixteen times the number before it. -/
lemma hexValue_append_singleton (cs : List Char) (c : Char) :
    hexValue (cs ++ [c]) = 16 * hexValue cs + digitValue c := by
  simp [hexValue]

/-- Digits are read again. -/
lemma hexValue_digits (n : Nat) : hexValue (digits 16 n) = n := by
  induction n using Nat.strong_induction_on with
  | _ n ih =>
    rw [digits, Nat.toDigits_eq_if (by decide)]
    split
    · rename_i h
      simp [hexValue, digitValue_digitChar h]
    · rename_i h
      rw [hexValue_append_singleton, ← digits, ih (n / 16) (by omega),
        digitValue_digitChar (Nat.mod_lt n (by decide))]
      omega

/-- Zeros before the digits do not count. -/
lemma hexValue_replicate_append (k : Nat) (cs : List Char) :
    hexValue (List.replicate k '0' ++ cs) = hexValue cs := by
  induction k with
  | zero => rfl
  | succ k ih => exact ih

/-- **Digits are read again, whatever zeros stand before them.** -/
lemma hexValue_padded (width n : Nat) : hexValue (padded width n) = n := by
  rw [padded, hexValue_replicate_append, hexValue_digits]

/-- The hexadecimal digits. -/
def hexAlphabet : List Char := "0123456789abcdef".toList

/-- Digits are among those of hexadecimal numerals. -/
lemma digitChar_mem_hexAlphabet {n : Nat} (h : n < 16) : n.digitChar ∈ hexAlphabet := by
  interval_cases n <;> decide

/-- The digits of a number are hexadecimal. -/
lemma digits_subset (n : Nat) : digits 16 n ⊆ hexAlphabet := by
  induction n using Nat.strong_induction_on with
  | _ n ih =>
    rw [digits, Nat.toDigits_eq_if (by decide)]
    split
    · rename_i hn
      exact List.cons_subset.2 ⟨digitChar_mem_hexAlphabet hn, List.nil_subset _⟩
    · rename_i hn
      have hlast := digitChar_mem_hexAlphabet (Nat.mod_lt n (show 0 < 16 by decide))
      exact List.append_subset.2
        ⟨ih (n / 16) (by omega), List.cons_subset.2 ⟨hlast, List.nil_subset _⟩⟩

/-- The digits of a number that was filled up are hexadecimal. -/
lemma padded_subset (width n : Nat) : padded width n ⊆ hexAlphabet := by
  refine List.append_subset.2 ⟨?_, digits_subset n⟩
  intro c hc
  rw [List.eq_of_mem_replicate hc]
  decide

/-! ## Numerals -/

/-- A numeral begins with its sign, if there is one, and the mark of hexadecimal numbers. -/
lemma toList_hex (n : Int) :
    (hex n).toList =
      if n < 0 then '-' :: '0' :: 'x' :: digits 16 n.natAbs
      else '0' :: 'x' :: digits 16 n.natAbs := by
  rw [hex, hexDigits, String.toList_append, String.toList_ofList]
  split <;> rfl

/-- A numeral in eight columns begins with the mark of hexadecimal numbers; the sign takes a
column. -/
lemma toList_hexWord (n : Int) :
    (hexWord n).toList =
      '0' :: 'x' :: if n < 0 then '-' :: padded 7 n.natAbs else padded 8 n.natAbs := by
  rw [hexWord, String.toList_append]
  exact congrArg ('0' :: 'x' :: ·) String.toList_ofList

/-- A sign before the digits of a negative number tells it from the others, if they have none. -/
lemma signed_injective {f g : Nat → List Char} (hf : Function.Injective f)
    (hg : Function.Injective g) (hsign : ∀ k, '-' ∉ g k) :
    Function.Injective fun n : Int => if n < 0 then '-' :: f n.natAbs else g n.natAbs := by
  intro m n h
  by_cases hm : m < 0 <;> by_cases hn : n < 0 <;> simp only [hm, hn, if_true, if_false] at h
  · have := hf (List.cons.inj h).2
    omega
  · exact absurd (h ▸ List.mem_cons_self) (hsign n.natAbs)
  · exact absurd (h ▸ List.mem_cons_self) (hsign m.natAbs)
  · have := hg h
    omega

/-- **Short numerals are read again.** -/
theorem hex_injective : Function.Injective hex := by
  have hdigits : Function.Injective fun n => '0' :: 'x' :: digits 16 n := by
    intro m n h
    have h := congrArg hexValue (List.cons.inj (List.cons.inj h).2).2
    rwa [hexValue_digits, hexValue_digits] at h
  have hsign : ∀ n, '-' ∉ '0' :: 'x' :: digits 16 n := by
    intro n
    simp only [List.mem_cons, not_or]
    exact ⟨by decide, by decide, fun h => absurd (digits_subset n h) (by decide)⟩
  intro m n h
  apply signed_injective hdigits hdigits hsign
  simpa only [toList_hex] using congrArg String.toList h

/-- **Numerals of a word are read again.** -/
theorem hexWord_injective : Function.Injective hexWord := by
  have hpadded : ∀ width, Function.Injective (padded width) := fun width =>
    Function.LeftInverse.injective (hexValue_padded width)
  have hsign : ∀ n, '-' ∉ padded 8 n := fun n h => absurd (padded_subset 8 n h) (by decide)
  intro m n h
  apply signed_injective (hpadded 7) (hpadded 8) hsign
  have h := congrArg String.toList h
  rw [toList_hexWord, toList_hexWord] at h
  exact (List.cons.inj (List.cons.inj h).2).2

/-! ## What follows a numeral -/

/-- Digits are among the characters of a numeral. -/
lemma hexAlphabet_subset : hexAlphabet ⊆ '-' :: 'x' :: hexAlphabet := by
  decide

/-- The characters of a short numeral. -/
lemma hex_subset (n : Int) : (hex n).toList ⊆ '-' :: 'x' :: hexAlphabet := by
  have hdigits := List.Subset.trans (digits_subset n.natAbs) hexAlphabet_subset
  rw [toList_hex]
  split <;> simp only [List.cons_subset]
  · exact ⟨by decide, by decide, by decide, hdigits⟩
  · exact ⟨by decide, by decide, hdigits⟩

/-- The characters of the numeral of a word. -/
lemma hexWord_subset (n : Int) : (hexWord n).toList ⊆ '-' :: 'x' :: hexAlphabet := by
  have hpadded width := List.Subset.trans (padded_subset width n.natAbs) hexAlphabet_subset
  rw [toList_hexWord]
  split <;> simp only [List.cons_subset]
  · exact ⟨by decide, by decide, by decide, hpadded 7⟩
  · exact ⟨by decide, by decide, hpadded 8⟩

/-- A text that ends at the first of some character is told from what follows. -/
lemma eq_of_append_cons {c : Char} {xs ys us vs : List Char} (hx : c ∉ xs) (hy : c ∉ ys)
    (h : xs ++ c :: us = ys ++ c :: vs) : xs = ys ∧ us = vs := by
  have hfront : ∀ {zs ws : List Char}, c ∉ zs → (zs ++ c :: ws).takeWhile (· ≠ c) = zs := by
    intro zs ws hz
    have hall : ∀ a ∈ zs, decide (a ≠ c) = true :=
      fun a ha => decide_eq_true (ne_of_mem_of_not_mem ha hz)
    rw [List.takeWhile_append_of_pos hall]
    simp
  have hxy : xs = ys := by
    rw [← hfront hx, h, hfront hy]
  subst hxy
  exact ⟨rfl, (List.cons.inj (List.append_cancel_left h)).2⟩

/-- The numeral of a word that is followed by a blank is read again, whatever comes behind it. -/
lemma eq_of_hexWord_append {m n : Int} {us vs : List Char}
    (h : (hexWord m).toList ++ ' ' :: us = (hexWord n).toList ++ ' ' :: vs) : m = n := by
  have hblank : ∀ n, ' ' ∉ (hexWord n).toList := fun n h => absurd (hexWord_subset n h) (by decide)
  exact hexWord_injective (String.toList_inj.1 (eq_of_append_cons (hblank m) (hblank n) h).1)

/-- Texts with a comma and a blank between them are, behind one more blank, texts that begin with a
blank and have a comma between them. -/
lemma cons_intercalate {ls : List (List Char)} (h : ls ≠ []) :
    ' ' :: [',', ' '].intercalate ls = [','].intercalate (ls.map (' ' :: ·)) := by
  induction ls with
  | nil => exact absurd rfl h
  | cons l ls ih =>
    cases ls with
    | nil => simp
    | cons m ls =>
      have ih := ih (List.cons_ne_nil m ls)
      rw [List.map_cons] at ih
      simp only [List.map_cons, List.intercalate_cons_cons, ← ih]
      simp

/-- Texts without commas are the pieces of the text that has commas between them. -/
lemma splitOn_cons_intercalate {ls : List (List Char)} (h : ls ≠ []) (hcomma : ∀ l ∈ ls, ',' ∉ l) :
    (' ' :: [',', ' '].intercalate ls).splitOn ',' = ls.map (' ' :: ·) := by
  have hmem : ∀ l ∈ ls.map (' ' :: ·), ',' ∉ l := by
    simpa using hcomma
  rw [cons_intercalate h, List.splitOn_intercalate ',' hmem (by simpa using h)]

/-- The pieces between commas of a list of numerals, if there is a blank before the first one. -/
lemma splitOn_intercalate_hex {ns : List Int} (h : ns ≠ []) :
    (' ' :: (String.intercalate ", " (ns.map hex)).toList).splitOn ',' =
      ns.map fun n => ' ' :: (hex n).toList := by
  have hcomma : ∀ n, ',' ∉ (hex n).toList := fun n h => absurd (hex_subset n h) (by decide)
  rw [String.toList_intercalate, List.map_map]
  refine (splitOn_cons_intercalate (by simpa using h) (by simpa using fun n _ => hcomma n)).trans ?_
  rw [List.map_map]
  rfl

/-- A list of numerals that is not empty is not written as nothing. -/
lemma intercalate_hex_ne_empty {ns : List Int} (h : ns ≠ []) :
    String.intercalate ", " (ns.map hex) ≠ "" := by
  intro hempty
  obtain ⟨n, ns, rfl⟩ := List.exists_cons_of_ne_nil h
  have hpieces := splitOn_intercalate_hex h
  rw [hempty, List.map_cons] at hpieces
  -- there is one piece, and it is nothing but the blank
  have hdigits : [] = (hex n).toList := (List.cons.inj (List.cons.inj hpieces).1).2
  rw [toList_hex] at hdigits
  split at hdigits <;> cases hdigits

/-- **Lists of numerals are read again.** -/
theorem intercalate_hex_injective : Function.Injective fun ns : List Int =>
    String.intercalate ", " (ns.map hex) := by
  intro ms ns h
  have h : String.intercalate ", " (ms.map hex) = String.intercalate ", " (ns.map hex) := h
  rcases eq_or_ne ms [] with rfl | hms
  · by_contra hns
    exact intercalate_hex_ne_empty (Ne.symm hns) h.symm
  rcases eq_or_ne ns [] with rfl | hns
  · exact absurd h (intercalate_hex_ne_empty hms)
  have hpieces := splitOn_intercalate_hex hms
  rw [h, splitOn_intercalate_hex hns] at hpieces
  have hinj : Function.Injective fun n => ' ' :: (hex n).toList := fun m n hmn =>
    hex_injective (String.toList_inj.1 (List.cons.inj hmn).2)
  exact (List.map_injective_iff.2 hinj hpieces).symm

end Nsis.Text
