import Mathlib.Algebra.BigOperators.Group.List.Basic
import Mathlib.Tactic.Ring
import Nsis.Bzip2.CodeTable
import Nsis.Proofs.Bzip2.BitQueue

/-!
# Canonical codes and their tables

Codes are handed out in the order of their lengths, and among codes of one length in the order of
the symbols; each takes the smallest number that no earlier code is the beginning of. The tables of
`Nsis.Bzip2.CodeTable` are shown to decode this assignment, and to stay inside their arrays for all
lengths that a block can announce, also for lengths that no prefix code has.

## Main definitions

* `Nsis.Bzip2.CodeTable.Admissible` — the lists of code lengths that a block can announce.
* `Nsis.Bzip2.CodeTable.taken` — how many codes of a length are ruled out by shorter codes.
* `Nsis.Bzip2.CodeTable.codeword` — the canonical code of a symbol.
* `Nsis.Bzip2.CodeTable.Kraft` — Kraft's inequality.

## Main results

* `Nsis.Bzip2.CodeTable.codeEnd_eq` — the ends of the code ranges, in closed form.
* `Nsis.Bzip2.CodeTable.lookup_ne_unfilled`, `Nsis.Bzip2.CodeTable.lt_of_lookup_eq_symbol` — a
  lookup only reads symbols that the table holds.
* `Nsis.Bzip2.CodeTable.lookup_codeValue`, `Nsis.Bzip2.CodeTable.lookup_shiftRight_codeValue` — a
  code is recognised at its own length and not before.
-/

namespace Nsis.Bzip2

namespace CodeTable

/-! ## Code lengths -/

/-- The lists of code lengths that a block can announce for its symbols. -/
structure Admissible (lengths : List Nat) : Prop where
  ne_nil : lengths ≠ []
  pos : ∀ l ∈ lengths, 1 ≤ l
  le : ∀ l ∈ lengths, l ≤ maxCodeLength

/-- Kraft's inequality: codes of these lengths fit beside one another. -/
def Kraft (lengths : List Nat) : Prop :=
  (lengths.map fun l => 2 ^ (maxCodeLength - l)).sum ≤ 2 ^ maxCodeLength

/-- Whether code lengths keep within the code space can be computed. -/
instance (lengths : List Nat) : Decidable (Kraft lengths) :=
  inferInstanceAs (Decidable (_ ≤ _))

/-- The shortest of some code lengths. -/
def shortest (lengths : List Nat) : Nat := lengths.foldl min 32

/-- The longest of some code lengths. -/
def longest (lengths : List Nat) : Nat := lengths.foldl max 0

/-- The table of a code is made for the lengths that occur in it. -/
lemma ofCode_eq (lengths : List Nat) :
    ofCode lengths = ofLengths lengths (shortest lengths) (longest lengths) := rfl

/-- The least number of a list is at most its start and each item. -/
lemma foldl_min_le (lengths : List Nat) (a : Nat) :
    lengths.foldl min a ≤ a ∧ ∀ l ∈ lengths, lengths.foldl min a ≤ l := by
  induction lengths generalizing a with
  | nil => simp
  | cons x xs ih =>
    obtain ⟨h₁, h₂⟩ := ih (min a x)
    refine ⟨h₁.trans (min_le_left a x), fun l hl => ?_⟩
    rcases List.mem_cons.1 hl with rfl | hl
    · exact h₁.trans (min_le_right a l)
    · exact h₂ l hl

/-- The greatest number of a list is at least its start and each item. -/
lemma le_foldl_max (lengths : List Nat) (a : Nat) :
    a ≤ lengths.foldl max a ∧ ∀ l ∈ lengths, l ≤ lengths.foldl max a := by
  induction lengths generalizing a with
  | nil => simp
  | cons x xs ih =>
    obtain ⟨h₁, h₂⟩ := ih (max a x)
    refine ⟨(le_max_left a x).trans h₁, fun l hl => ?_⟩
    rcases List.mem_cons.1 hl with rfl | hl
    · exact (le_max_right a l).trans h₁
    · exact h₂ l hl

/-- No length is below the shortest one. -/
lemma shortest_le {lengths : List Nat} {l : Nat} (h : l ∈ lengths) : shortest lengths ≤ l :=
  (foldl_min_le lengths 32).2 l h

/-- No length is above the longest one. -/
lemma le_longest {lengths : List Nat} {l : Nat} (h : l ∈ lengths) : l ≤ longest lengths :=
  (le_foldl_max lengths 0).2 l h

/-- A bound below all lengths is one of the shortest length. -/
lemma le_shortest {lengths : List Nat} {n : Nat} (hn : n ≤ 32) (h : ∀ l ∈ lengths, n ≤ l) :
    n ≤ shortest lengths := by
  suffices ∀ a, n ≤ a → n ≤ lengths.foldl min a from this 32 hn
  induction lengths with
  | nil => simp
  | cons x xs ih =>
    intro a ha
    exact ih (fun l hl => h l (List.mem_cons_of_mem x hl)) _ (le_min ha (h x List.mem_cons_self))

/-- A bound above all lengths is one of the longest length. -/
lemma longest_le {lengths : List Nat} {n : Nat} (h : ∀ l ∈ lengths, l ≤ n) :
    longest lengths ≤ n := by
  suffices ∀ a, a ≤ n → lengths.foldl max a ≤ n from this 0 n.zero_le
  induction lengths with
  | nil => simp
  | cons x xs ih =>
    intro a ha
    exact ih (fun l hl => h l (List.mem_cons_of_mem x hl)) _ (max_le ha (h x List.mem_cons_self))

namespace Admissible

variable {lengths : List Nat} (h : Admissible lengths)
include h

/-- The lengths of an admissible code are positive. -/
lemma one_le_shortest : 1 ≤ shortest lengths :=
  le_shortest (by decide) h.pos

/-- The shortest length of a code is at most the longest one. -/
lemma shortest_le_longest : shortest lengths ≤ longest lengths := by
  obtain ⟨l, hl⟩ := List.exists_mem_of_ne_nil lengths h.ne_nil
  exact (shortest_le hl).trans (le_longest hl)

/-- The lengths of an admissible code have a bound. -/
lemma longest_le_max : longest lengths ≤ maxCodeLength :=
  longest_le h.le

end Admissible

/-! ## Counting codes -/

/-- How many codes of length `n` begin with a shorter code. -/
def taken (lengths : List Nat) (n : Nat) : Nat :=
  (lengths.map fun l => if l < n then 2 ^ (n - l) else 0).sum

/-- There are no codes below all lengths. -/
lemma countBelow_eq_zero {lengths : List Nat} {n : Nat} (h : ∀ l ∈ lengths, n ≤ l) :
    countBelow lengths n = 0 := by
  rw [countBelow, List.countP_eq_zero]
  intro l hl
  simpa using h l hl

/-- All codes are below a bound above all lengths. -/
lemma countBelow_eq_length {lengths : List Nat} {n : Nat} (h : ∀ l ∈ lengths, l < n) :
    countBelow lengths n = lengths.length := by
  rw [countBelow, List.countP_eq_length]
  intro l hl
  simpa using h l hl

/-- There are at most as many codes below a bound as there are lengths. -/
lemma countBelow_le (lengths : List Nat) (n : Nat) : countBelow lengths n ≤ lengths.length :=
  List.countP_le_length

/-- Below all lengths, nothing is taken of the code space. -/
lemma taken_eq_zero {lengths : List Nat} {n : Nat} (h : ∀ l ∈ lengths, n ≤ l) :
    taken lengths n = 0 := by
  refine List.sum_eq_zero fun x hx => ?_
  obtain ⟨l, hl, rfl⟩ := List.mem_map.1 hx
  rw [if_neg (Nat.not_lt.2 (h l hl))]

/-- Each code of length `n`, and each number that a shorter code rules out, rules out two of the
next length. -/
lemma taken_succ (lengths : List Nat) (n : Nat) :
    taken lengths (n + 1) = 2 * (taken lengths n + lengths.count n) := by
  induction lengths with
  | nil => rfl
  | cons l ls ih =>
    have hhead : (if l < n + 1 then 2 ^ (n + 1 - l) else 0) =
        2 * ((if l < n then 2 ^ (n - l) else 0) + if l == n then 1 else 0) := by
      rcases Nat.lt_trichotomy l n with h | rfl | h
      · rw [if_pos (by omega), if_pos h, Nat.succ_sub h.le, pow_succ]
        simp [h.ne]
        ring
      · simp
      · simp [Nat.not_lt.2 h, h.ne', show ¬ l < n by omega]
    simp only [taken, List.map_cons, List.sum_cons, List.count_cons] at ih ⊢
    rw [ih, hhead]
    ring

/-- The ranges of codes grow with the length, by a factor of two for each bit at least. -/
lemma two_pow_mul_taken_le (lengths : List Nat) (n k : Nat) :
    2 ^ k * (taken lengths n + lengths.count n) ≤
      taken lengths (n + k) + lengths.count (n + k) := by
  induction k with
  | zero => simp
  | succ k ih =>
    calc 2 ^ (k + 1) * (taken lengths n + lengths.count n)
        = 2 * (2 ^ k * (taken lengths n + lengths.count n)) := by ring
      _ ≤ 2 * (taken lengths (n + k) + lengths.count (n + k)) := Nat.mul_le_mul_left 2 ih
      _ = taken lengths (n + (k + 1)) := (taken_succ lengths (n + k)).symm
      _ ≤ taken lengths (n + (k + 1)) + lengths.count (n + (k + 1)) := Nat.le_add_right _ _

/-- The bound that keeps all code ranges inside a machine word. -/
lemma taken_add_count_le {lengths : List Nat} (h : ∀ l ∈ lengths, 1 ≤ l) (n : Nat) :
    taken lengths n + lengths.count n ≤ lengths.length * 2 ^ n := by
  induction lengths with
  | nil => simp [taken]
  | cons l ls ih =>
    have hhead : (if l < n then 2 ^ (n - l) else 0) + (if l == n then 1 else 0) ≤ 2 ^ n := by
      rcases Nat.lt_trichotomy l n with hl | rfl | hl
      · simp only [hl, hl.ne, beq_iff_eq, if_true, if_false, Nat.add_zero]
        exact Nat.pow_le_pow_right (by decide) (Nat.sub_le n l)
      · simp [Nat.one_le_two_pow]
      · simp [Nat.not_lt.2 hl.le, hl.ne']
    have := ih fun x hx => h x (List.mem_cons_of_mem l hx)
    simp only [taken, List.map_cons, List.sum_cons, List.count_cons, List.length_cons] at this ⊢
    rw [Nat.add_mul, Nat.one_mul]
    omega

/-- **The ends of the code ranges**: one more than the last code of a length is the number of codes
of that length and of those that shorter codes rule out.

**Proof sketch.** Induction on the length, from the shortest one, below which nothing is taken. One
more bit doubles what is taken (`taken_succ`), as `codeEnd` does. -/
lemma codeEnd_eq {lengths : List Nat} {first : Nat} (h : ∀ l ∈ lengths, first ≤ l) {k : Nat}
    (hk : first + k + 1 < tableLength) :
    codeEnd lengths first k =
      ((taken lengths (first + k) + lengths.count (first + k) : Nat) : Int) := by
  induction k with
  | zero =>
    simp only [codeEnd, Nat.add_zero]
    rw [codesOfLength_eq_count lengths hk, taken_eq_zero h, Nat.zero_add]
  | succ k ih =>
    simp only [codeEnd]
    rw [ih (by omega), codesOfLength_eq_count lengths (by omega),
      show first + (k + 1) = first + k + 1 by omega, taken_succ]
    push_cast
    ring

/-! ## The symbols by rank -/

/-- There are as many symbols of a length as the length occurs. -/
lemma length_symbolsOfLength (lengths : List Nat) (n : Nat) :
    (symbolsOfLength lengths n).length = lengths.count n := by
  rw [symbolsOfLength, List.length_map, ← List.countP_eq_length_filter, List.count_eq_countP]
  conv_rhs => rw [← List.zipIdx_map_fst 0 lengths, List.countP_map]
  rfl

/-- The symbols of a length belong to the code. -/
lemma lt_length_of_mem_symbolsOfLength {lengths : List Nat} {n s : Nat}
    (h : s ∈ symbolsOfLength lengths n) : s < lengths.length := by
  simp only [symbolsOfLength, List.mem_map, List.mem_filter] at h
  obtain ⟨p, ⟨hp, -⟩, rfl⟩ := h
  simpa using List.snd_lt_of_mem_zipIdx hp

/-- The symbols of the lengths `first … first + m - 1`, by rank. -/
def ranked (lengths : List Nat) (first m : Nat) : List Nat :=
  (List.range m).flatMap fun k => symbolsOfLength lengths (first + k)

/-- The table lists the symbols by their lengths. -/
lemma perm_ofLengths (lengths : List Nat) (first last : Nat) :
    (ofLengths lengths first last).perm = (ranked lengths first (last + 1 - first)).toArray := rfl

/-- The ranking goes on with the symbols of the next length. -/
lemma ranked_succ (lengths : List Nat) (first m : Nat) :
    ranked lengths first (m + 1) =
      ranked lengths first m ++ symbolsOfLength lengths (first + m) := by
  simp [ranked, List.range_succ]

/-- The rank of the first symbol of a length is the number of shorter codes. -/
lemma length_ranked {lengths : List Nat} {first : Nat} (h : ∀ l ∈ lengths, first ≤ l) (m : Nat) :
    (ranked lengths first m).length = countBelow lengths (first + m) := by
  induction m with
  | zero => simp [ranked, countBelow_eq_zero h]
  | succ m ih =>
    rw [ranked_succ, List.length_append, ih, length_symbolsOfLength, ← Nat.add_assoc,
      countBelow_succ]

/-- A shorter ranking is the beginning of a longer one. -/
lemma ranked_append (lengths : List Nat) (first m k : Nat) :
    ∃ rest, ranked lengths first (m + k) = ranked lengths first m ++ rest := by
  refine ⟨((List.range k).map (m + ·)).flatMap fun k => symbolsOfLength lengths (first + k), ?_⟩
  simp [ranked, List.range_add]

/-- The symbols of a ranking belong to the code. -/
lemma lt_length_of_mem_ranked {lengths : List Nat} {first m s : Nat}
    (h : s ∈ ranked lengths first m) : s < lengths.length := by
  simp only [ranked, List.mem_flatMap] at h
  obtain ⟨k, -, hs⟩ := h
  exact lt_length_of_mem_symbolsOfLength hs

/-- Among the symbols of its length, a symbol stands behind those with a smaller number. -/
lemma symbolsOfLength_count_take {lengths : List Nat} {j n : Nat} (hj : lengths[j]? = some n) :
    (symbolsOfLength lengths n)[(lengths.take j).count n]? = some j := by
  obtain ⟨hlt, hn⟩ := List.getElem?_eq_some_iff.1 hj
  have hsplit : lengths = lengths.take j ++ n :: lengths.drop (j + 1) := by
    rw [← hn, ← List.drop_eq_getElem_cons hlt, List.take_append_drop]
  have hbefore : ((lengths.take j).zipIdx.filter fun p => p.1 = n).length =
      (lengths.take j).count n := by
    rw [← length_symbolsOfLength, symbolsOfLength, List.length_map]
  have hlen : (lengths.take j).length = j := List.length_take_of_le hlt.le
  have hsym : symbolsOfLength lengths n =
      ((lengths.take j).zipIdx.filter fun p => p.1 = n).map (·.2) ++
        j :: (((lengths.drop (j + 1)).zipIdx (j + 1)).filter fun p => p.1 = n).map (·.2) := by
    conv_lhs => rw [symbolsOfLength, hsplit, List.zipIdx_append, List.zipIdx_cons, hlen]
    simp
  rw [hsym, List.getElem?_append_right, List.length_map, hbefore, Nat.sub_self]
  · rfl
  · rw [List.length_map, hbefore]

/-- The rank of a symbol: shorter codes come before it, and codes of its own length with a smaller
number. -/
def rank (lengths : List Nat) (j n : Nat) : Nat :=
  countBelow lengths n + (lengths.take j).count n

/-- A symbol stands in the table at its rank. -/
lemma ranked_rank {lengths : List Nat} {first last j n : Nat} (h : ∀ l ∈ lengths, first ≤ l)
    (hj : lengths[j]? = some n) (hn : n ≤ last) :
    (ranked lengths first (last + 1 - first))[rank lengths j n]? = some j := by
  have hfirst : first ≤ n := h n (List.mem_of_getElem? hj)
  obtain ⟨rest, hrest⟩ := ranked_append lengths first (n - first + 1) (last - n)
  have hsym := symbolsOfLength_count_take hj
  have hlt := (List.getElem?_eq_some_iff.1 hsym).1
  have hlen : (ranked lengths first (n - first)).length = countBelow lengths n := by
    rw [length_ranked h, Nat.add_sub_cancel' hfirst]
  rw [show last + 1 - first = n - first + 1 + (last - n) by omega, hrest, ranked_succ,
    Nat.add_sub_cancel' hfirst, List.getElem?_append_left, List.getElem?_append_right, hlen, rank,
    Nat.add_sub_cancel_left, hsym]
  · rw [hlen, rank]
    exact Nat.le_add_right _ _
  · rw [List.length_append, hlen, rank]
    omega

/-! ## Looking up a code -/

/-- Inside a table, the limit of a length is its last code. -/
lemma limit_getD (lengths : List Nat) (first last : Nat) {n : Nat} (hn : n < tableLength) :
    (ofLengths lengths first last).limit.getD n 0 = limitFor lengths first last n := by
  simp [ofLengths, Array.getD, hn]

/-- Inside a table, the base of a length is the distance from its codes to their ranks. -/
lemma base_getD (lengths : List Nat) (first last : Nat) {n : Nat} (hn : n < tableLength) :
    (ofLengths lengths first last).base.getD n 0 = baseFor lengths first last n := by
  simp [ofLengths, Array.getD, hn]

variable {lengths : List Nat}

/-- The last code of a length, in closed form. -/
lemma limitFor_eq (h : Admissible lengths) {n : Nat} (h₁ : shortest lengths ≤ n)
    (h₂ : n ≤ longest lengths) :
    limitFor lengths (shortest lengths) (longest lengths) n =
      ((taken lengths n + lengths.count n : Nat) : Int) - 1 := by
  have hmax := h.longest_le_max
  rw [limitFor, if_pos ⟨h₁, h₂⟩, codeEnd_eq fun _ => shortest_le, Nat.add_sub_cancel' h₁]
  simp only [maxCodeLength, tableLength] at hmax ⊢
  omega

/-- The distance from codes to ranks, in closed form: ranks begin at the number of shorter codes,
codes at what those have taken. -/
lemma baseFor_eq (h : Admissible lengths) {n : Nat} (h₁ : shortest lengths ≤ n)
    (h₂ : n ≤ longest lengths) :
    baseFor lengths (shortest lengths) (longest lengths) n =
      (taken lengths n : Int) - countBelow lengths n := by
  have hmax := h.longest_le_max
  rcases Nat.eq_or_lt_of_le h₁ with rfl | hlt
  · have hge : ∀ l ∈ lengths, shortest lengths ≤ l := fun _ => shortest_le
    rw [baseFor, if_neg (by omega), taken_eq_zero hge, countBelow_eq_zero hge]
    rfl
  · obtain ⟨m, rfl⟩ : ∃ m, n = m + 1 := ⟨n - 1, by omega⟩
    rw [baseFor, if_pos ⟨hlt, h₂⟩, codeEnd_eq fun _ => shortest_le,
      show shortest lengths + (m + 1 - 1 - shortest lengths) = m by omega, taken_succ]
    · push_cast
      ring
    · simp only [maxCodeLength, tableLength] at hmax ⊢
      omega

/-- **A complete code has a rank that the table holds.** For a length in range the code is below the
end of its range, so that its rank is below the number of codes up to that length. Beyond the
longest length, only the number zero counts as a code, and its rank is negative; below the shortest
length its rank is zero.

**Proof sketch.** In range, the limit and the base differ by the number of codes up to the length
(`limitFor_eq`, `baseFor_eq`), at most one for each symbol. -/
lemma rank_lt_of_le_limit (h : Admissible lengths) {n v : Nat} (hn : n < tableLength)
    (hv : (v : Int) ≤ (ofCode lengths).limit.getD n 0) :
    (v : Int) - (ofCode lengths).base.getD n 0 < lengths.length := by
  have hpos : 0 < lengths.length := List.length_pos_iff.2 h.ne_nil
  rw [ofCode_eq, limit_getD _ _ _ hn] at hv
  rw [ofCode_eq, base_getD _ _ _ hn]
  by_cases hr : shortest lengths ≤ n ∧ n ≤ longest lengths
  · rw [limitFor_eq h hr.1 hr.2] at hv
    rw [baseFor_eq h hr.1 hr.2]
    have hle := countBelow_le lengths (n + 1)
    rw [countBelow_succ] at hle
    omega
  · rw [limitFor, if_neg hr] at hv
    have hbase : baseFor lengths (shortest lengths) (longest lengths) n = countBelow lengths n := by
      rw [baseFor, if_neg]
      omega
    rw [hbase]
    omega

/-- The table lists each symbol of an admissible code once. -/
lemma size_perm (h : Admissible lengths) : (ofCode lengths).perm.size = lengths.length := by
  have hle := h.shortest_le_longest
  rw [ofCode_eq, perm_ofLengths, List.size_toArray, length_ranked fun _ => shortest_le,
    countBelow_eq_length]
  intro l hl
  have := le_longest hl
  omega

/-- Every complete code has a symbol in the table. -/
theorem lookup_ne_unfilled (h : Admissible lengths) (n v : Nat) :
    (ofCode lengths).lookup n v ≠ .unfilled := by
  intro hl
  unfold lookup at hl
  split at hl
  · cases hl
  split at hl
  · rename_i hn hv
    have hrank := rank_lt_of_le_limit h (show n < tableLength by
      simp only [maxCodeLength, tableLength] at hn ⊢
      omega) hv
    simp only at hl
    split at hl
    · cases hl
    split at hl
    · cases hl
    · rename_i hneg _ hnone
      rw [Array.getElem?_eq_none_iff, size_perm h] at hnone
      omega
  · cases hl

/-- A lookup gives a symbol of the alphabet. -/
theorem lt_of_lookup_eq_symbol {n v s : Nat} (hl : (ofCode lengths).lookup n v = .symbol s) :
    s < lengths.length := by
  unfold lookup at hl
  split at hl
  · cases hl
  split at hl
  · simp only at hl
    split at hl
    · cases hl
    split at hl
    · rename_i hs
      cases hl
      rw [ofCode_eq, perm_ofLengths, List.getElem?_toArray] at hs
      exact lt_length_of_mem_ranked (List.mem_of_getElem? hs)
    · cases hl
  · cases hl

/-! ## Canonical codes -/

/-- The number that the code of symbol `j` denotes, when its length is `n`: the codes of a length
follow what shorter codes have taken, in the order of their symbols. -/
def codeValue (lengths : List Nat) (j n : Nat) : Nat :=
  taken lengths n + (lengths.take j).count n

/-- The canonical code of symbol `j`; there is none for a symbol outside the alphabet. -/
def codeword (lengths : List Nat) (j : Nat) : List Bool :=
  match lengths[j]? with
  | some n => bitsOf n (codeValue lengths j n)
  | none => []

/-- Fewer symbols of the same length come before a symbol than there are of this length. -/
lemma count_take_lt {j n : Nat} (hj : lengths[j]? = some n) :
    (lengths.take j).count n < lengths.count n := by
  have := (List.getElem?_eq_some_iff.1 (symbolsOfLength_count_take hj)).1
  rwa [length_symbolsOfLength] at this

/-- By Kraft's inequality, the codes of a length and what is taken fit into that length.

**Proof sketch.** Scaled up to the longest length allowed, what is taken at length `n` is a part of
Kraft's sum. -/
lemma taken_add_count_le_two_pow (hk : Kraft lengths) {n : Nat} (hn : n ≤ maxCodeLength) :
    taken lengths n + lengths.count n ≤ 2 ^ n := by
  have hsum : 2 ^ (maxCodeLength - n) * (taken lengths n + lengths.count n) ≤
      (lengths.map fun l => 2 ^ (maxCodeLength - l)).sum := by
    clear hk
    induction lengths with
    | nil => simp [taken]
    | cons l ls ih =>
      have hhead : 2 ^ (maxCodeLength - n) *
          ((if l < n then 2 ^ (n - l) else 0) + if l == n then 1 else 0) ≤
            2 ^ (maxCodeLength - l) := by
        rcases Nat.lt_trichotomy l n with hl | rfl | hl
        · simp only [hl, hl.ne, beq_iff_eq, if_true, if_false, Nat.add_zero]
          rw [← pow_add]
          exact Nat.pow_le_pow_right (by decide) (by omega)
        · simp
        · simp [Nat.not_lt.2 hl.le, hl.ne']
      simp only [taken, List.map_cons, List.sum_cons, List.count_cons] at ih ⊢
      rw [show ∀ a b c d : Nat, a + b + (c + d) = b + c + (a + d) by intros; ring, Nat.mul_add,
        Nat.add_comm]
      exact Nat.add_le_add hhead ih
  have hpow : 2 ^ maxCodeLength = 2 ^ (maxCodeLength - n) * 2 ^ n := by
    rw [← pow_add, Nat.sub_add_cancel hn]
  exact Nat.le_of_mul_le_mul_left ((hsum.trans hk).trans_eq hpow) (Nat.two_pow_pos _)

/-- The code of a symbol fits into its length. -/
lemma codeValue_lt (h : Admissible lengths) (hk : Kraft lengths) {j n : Nat}
    (hj : lengths[j]? = some n) : codeValue lengths j n < 2 ^ n := by
  have h₁ := taken_add_count_le_two_pow hk (h.le n (List.mem_of_getElem? hj))
  have h₂ := count_take_lt hj
  rw [codeValue]
  omega

/-- **A code is recognised at its length**: the table gives its symbol.

**Proof sketch.** The code lies in the range of its length (`limitFor_eq`), and what it exceeds its
base by is the rank of its symbol (`baseFor_eq`, `ranked_rank`). -/
theorem lookup_codeValue (h : Admissible lengths) (hl : lengths.length ≤ maxAlphabet) {j n : Nat}
    (hj : lengths[j]? = some n) :
    (ofCode lengths).lookup n (codeValue lengths j n) = .symbol j := by
  have hmem := List.mem_of_getElem? hj
  have h₁ : shortest lengths ≤ n := shortest_le hmem
  have h₂ : n ≤ longest lengths := le_longest hmem
  have hmax : n ≤ maxCodeLength := h.le n hmem
  have hn : n < tableLength := by
    simp only [maxCodeLength, tableLength] at hmax ⊢
    omega
  have hlimit : (ofCode lengths).limit.getD n 0 =
      ((taken lengths n + lengths.count n : Nat) : Int) - 1 := by
    rw [ofCode_eq, limit_getD _ _ _ hn, limitFor_eq h h₁ h₂]
  have hbase : (ofCode lengths).base.getD n 0 = (taken lengths n : Int) - countBelow lengths n := by
    rw [ofCode_eq, base_getD _ _ _ hn, baseFor_eq h h₁ h₂]
  have hcount := count_take_lt hj
  have hrank : (codeValue lengths j n : Int) - (ofCode lengths).base.getD n 0 =
      rank lengths j n := by
    rw [hbase, codeValue, rank]
    push_cast
    ring
  have hperm : (ofCode lengths).perm[rank lengths j n]? = some j := by
    rw [ofCode_eq, perm_ofLengths, List.getElem?_toArray]
    exact ranked_rank (fun _ => shortest_le) hj h₂
  have hlt : rank lengths j n < maxAlphabet := by
    have := (Array.getElem?_eq_some_iff.1 hperm).1
    rw [size_perm h] at this
    omega
  rw [lookup, if_neg (by omega), if_pos, hrank, if_neg (by omega), Int.toNat_natCast, hperm]
  rw [hlimit, codeValue]
  omega

/-- **A code is not recognised too early**: its beginnings are beyond the codes of their lengths.

**Proof sketch.** The codes of length `m`, and all that they and shorter ones rule out, take up the
numbers of length `n` below those of the codes of length `n` (`two_pow_mul_taken_le`). -/
theorem lookup_shiftRight_codeValue (h : Admissible lengths) {j m n : Nat}
    (hj : lengths[j]? = some n) (h₁ : shortest lengths ≤ m) (hm : m < n) :
    (ofCode lengths).lookup m (codeValue lengths j n >>> (n - m)) = .incomplete := by
  have hmem := List.mem_of_getElem? hj
  have h₂ : n ≤ longest lengths := le_longest hmem
  have hmax : n ≤ maxCodeLength := h.le n hmem
  have htable : m < tableLength := by
    simp only [maxCodeLength, tableLength] at hmax ⊢
    omega
  have hge : taken lengths m + lengths.count m ≤ codeValue lengths j n >>> (n - m) := by
    rw [Nat.shiftRight_eq_div_pow, Nat.le_div_iff_mul_le (Nat.two_pow_pos _), codeValue]
    obtain ⟨k, rfl⟩ : ∃ k, n = m + k + 1 := ⟨n - m - 1, by omega⟩
    calc (taken lengths m + lengths.count m) * 2 ^ (m + k + 1 - m)
        = 2 * (2 ^ k * (taken lengths m + lengths.count m)) := by
          rw [show m + k + 1 - m = k + 1 by omega]
          ring
      _ ≤ 2 * (taken lengths (m + k) + lengths.count (m + k)) :=
          Nat.mul_le_mul_left 2 (two_pow_mul_taken_le lengths m k)
      _ = taken lengths (m + k + 1) := (taken_succ lengths (m + k)).symm
      _ ≤ _ := Nat.le_add_right _ _
  rw [lookup, if_neg (by omega), if_neg]
  rw [ofCode_eq, limit_getD _ _ _ htable, limitFor_eq h h₁ (by omega)]
  omega

end CodeTable

end Nsis.Bzip2
