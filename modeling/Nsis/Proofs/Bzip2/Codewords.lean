import Mathlib.Data.List.Sigma
import Mathlib.Data.List.Sort
import Nsis.Proofs.Bzip2.Symbols

/-!
# Decoding codewords

The canonical code is given by the lengths of its codewords alone: in the order of the lengths, and
then of the symbols, each symbol gets the next number. Reading a code with the tables of such
lengths decodes just this code, from whatever bits the reader holds: the bits of a codeword lead to
its symbol, the bits behind them are left, and bits that begin with no codeword are invalid.

## Main definitions

* `Nsis.Bzip2.CodeTable.canonicalCode` — the symbols with their codewords.
* `Nsis.Bzip2.CodeTable.decode` — reading one code with a table.
* `Nsis.Bzip2.CodeTable.Decoded.FoundIn` — where in some bits a code was found.

## Main results

* `Nsis.Bzip2.CodeTable.mem_canonicalCode` — the canonical code in closed form.
* `Nsis.Bzip2.CodeTable.run_code` — reading a block is reading its codes.
* `Nsis.Bzip2.CodeTable.foundIn_decodeFrom` — reading a code finds it in the bits.
* `Nsis.Bzip2.CodeTable.decode_canonicalCode` — tables decode the canonical code.
-/

namespace Nsis.Bzip2

namespace CodeTable

/-! ## The canonical code -/

/-- Shorter codes come first, and codes of one length in the order of their symbols. -/
def Precedes (p q : Nat × Nat) : Prop :=
  p.1 < q.1 ∨ p.1 = q.1 ∧ p.2 ≤ q.2

/-- Which of two codes is handed out first can be computed. -/
instance : DecidableRel Precedes := fun p q =>
  inferInstanceAs (Decidable (p.1 < q.1 ∨ p.1 = q.1 ∧ p.2 ≤ q.2))

/-- Of two codes, one is handed out first. -/
instance : Std.Total Precedes where
  total p q := by
    simp only [Precedes]
    omega

/-- The order in which codes are handed out is transitive. -/
instance : IsTrans (Nat × Nat) Precedes where
  trans p q r hpq hqr := by
    simp only [Precedes] at *
    omega

/-- Hand out codes for symbols with the given lengths, one after the other. Each of them is the
number after the one before it, with zeros appended up to its length; `next` is the first number to
be used, of `length` bits. -/
def handOut : (length next : Nat) → List (Nat × Nat) → List (Nat × List Bool)
  | _, _, [] => []
  | length, next, (n, j) :: entries =>
    (j, bitsOf n (next * 2 ^ (n - length))) :: handOut n (next * 2 ^ (n - length) + 1) entries

/-- The canonical code for a list of code lengths: the symbols with their codewords, which are
handed out in the order of their lengths, and then of the symbols. -/
def canonicalCode (lengths : List Nat) : List (Nat × List Bool) :=
  handOut 0 0 (lengths.zipIdx.insertionSort Precedes)

example : canonicalCode [3, 1, 3] =
    [(1, [false]), (0, [true, false, false]), (2, [true, false, true])] := by
  decide

/-- The codewords that are handed out: each of the entries before it moves a codeword on by one, at
its own length. -/
lemma mem_handOut {entries : List (Nat × Nat)} {length next : Nat}
    (hle : ∀ p ∈ entries, length ≤ p.1) (hasc : entries.Pairwise fun p q => p.1 ≤ q.1)
    {e : Nat × List Bool} :
    e ∈ handOut length next entries ↔ ∃ before n after, entries = before ++ (n, e.1) :: after ∧
      e.2 = bitsOf n (next * 2 ^ (n - length) + (before.map fun p => 2 ^ (n - p.1)).sum) := by
  induction entries generalizing length next with
  | nil => simp [handOut]
  | cons p entries ih =>
    obtain ⟨m, i⟩ := p
    obtain ⟨hm, hasc⟩ := List.pairwise_cons.1 hasc
    have hlen : length ≤ m := hle (m, i) List.mem_cons_self
    have hvalue : ∀ n s, m ≤ n → (next * 2 ^ (m - length) + 1) * 2 ^ (n - m) + s =
        next * 2 ^ (n - length) + (2 ^ (n - m) + s) := by
      intro n s hn
      rw [Nat.add_mul, Nat.mul_assoc, ← pow_add, show m - length + (n - m) = n - length by omega]
      ring
    rw [handOut, List.mem_cons, ih hm hasc]
    constructor
    · rintro (rfl | ⟨before, n, after, rfl, hcode⟩)
      · exact ⟨[], m, entries, rfl, by simp⟩
      · have hn : m ≤ n := hm (n, e.1) (by simp)
        refine ⟨(m, i) :: before, n, after, rfl, ?_⟩
        rw [hcode, hvalue n _ hn, List.map_cons, List.sum_cons]
    · rintro ⟨before, n, after, hentries, hcode⟩
      rcases List.cons_eq_append_iff.1 hentries with ⟨rfl, hhead⟩ | ⟨before', rfl, rfl⟩
      · obtain ⟨hp, rfl⟩ := List.cons.inj hhead
        obtain ⟨rfl, hi⟩ := Prod.mk.inj hp
        exact .inl (Prod.ext hi (by simpa using hcode))
      · have hn : m ≤ n := hm (n, e.1) (by simp)
        refine .inr ⟨before', n, after, rfl, ?_⟩
        rw [hcode, hvalue n _ hn, List.map_cons, List.sum_cons]

/-- What the entries that precede symbol `j` at length `n` take up: the shorter codes, and those of
its length with a smaller number. -/
lemma sum_zipIdx (lengths : List Nat) (k j n : Nat) :
    ((lengths.zipIdx k).map fun p =>
        if p.1 < n ∨ p.1 = n ∧ p.2 < j then 2 ^ (n - p.1) else 0).sum =
      taken lengths n + (lengths.take (j - k)).count n := by
  induction lengths generalizing k with
  | nil => simp [taken]
  | cons l ls ih =>
    have hhead : (if l < n ∨ l = n ∧ k < j then 2 ^ (n - l) else 0) +
        (ls.take (j - (k + 1))).count n =
        (if l < n then 2 ^ (n - l) else 0) + ((l :: ls).take (j - k)).count n := by
      rcases Nat.lt_or_ge k j with hk | hk
      · rw [show j - k = j - (k + 1) + 1 by omega, List.take_succ_cons, List.count_cons]
        rcases Nat.lt_trichotomy l n with hl | rfl | hl
        · simp [hl, hl.ne]
        · simp [hk, Nat.add_comm]
        · simp [hl.ne', Nat.not_lt.2 hl.le]
      · rw [show j - (k + 1) = 0 by omega, show j - k = 0 by omega]
        simp [Nat.not_lt.2 hk]
    simp only [List.zipIdx_cons, List.map_cons, List.sum_cons, ih, taken] at hhead ⊢
    omega

/-- The entries before that of a symbol, in the order of the codes, make up its codeword. -/
lemma sum_before {lengths : List Nat} {before after : List (Nat × Nat)} {n j : Nat}
    (h : lengths.zipIdx.insertionSort Precedes = before ++ (n, j) :: after) :
    (before.map fun p => 2 ^ (n - p.1)).sum = codeValue lengths j n := by
  let share : Nat × Nat → Nat := fun p => if p.1 < n ∨ p.1 = n ∧ p.2 < j then 2 ^ (n - p.1) else 0
  have hperm : (before ++ (n, j) :: after).Perm lengths.zipIdx := h ▸ List.perm_insertionSort _ _
  have hsum : ((before ++ (n, j) :: after).map share).sum = codeValue lengths j n :=
    (hperm.map share).sum_eq.trans (sum_zipIdx lengths 0 j n)
  have hsorted : (before ++ (n, j) :: after).Pairwise fun p q => Precedes p q ∧ p.2 ≠ q.2 := by
    refine (h ▸ List.pairwise_insertionSort Precedes lengths.zipIdx).and ?_
    exact List.pairwise_map.1 ((hperm.map Prod.snd).nodup_iff.2 (List.nodup_zipIdx_map_snd lengths))
  obtain ⟨-, hafter, hbefore⟩ := List.pairwise_append.1 hsorted
  have hpos : before.map share = before.map fun p => 2 ^ (n - p.1) := by
    refine List.map_congr_left fun p hp => if_pos ?_
    have hp := hbefore p hp (n, j) List.mem_cons_self
    simp only [Precedes] at hp
    omega
  have hzero : (((n, j) :: after).map share).sum = 0 := by
    refine List.sum_eq_zero fun x hx => ?_
    obtain ⟨q, hq, rfl⟩ := List.mem_map.1 hx
    refine if_neg ?_
    rcases List.mem_cons.1 hq with rfl | hq
    · simp
    · have hq := (List.pairwise_cons.1 hafter).1 q hq
      simp only [Precedes] at hq
      omega
  rwa [List.map_append, List.sum_append, hzero, hpos, Nat.add_zero] at hsum

/-- **The canonical code in closed form**: every symbol has one codeword. -/
lemma mem_canonicalCode {lengths : List Nat} {e : Nat × List Bool} :
    e ∈ canonicalCode lengths ↔
      ∃ n, lengths[e.1]? = some n ∧ e.2 = bitsOf n (codeValue lengths e.1 n) := by
  have hasc := List.pairwise_insertionSort Precedes lengths.zipIdx
  have hmem : ∀ n, (n, e.1) ∈ lengths.zipIdx.insertionSort Precedes ↔ lengths[e.1]? = some n := by
    intro n
    rw [List.mem_insertionSort, List.mk_mem_zipIdx_iff_getElem?]
  rw [canonicalCode, mem_handOut (fun p _ => p.1.zero_le) (hasc.imp fun h => by
    simp only [Precedes] at h
    omega)]
  constructor
  · rintro ⟨before, n, after, hentries, hcode⟩
    refine ⟨n, (hmem n).1 (by simp [hentries]), ?_⟩
    rw [hcode, sum_before hentries, Nat.zero_mul, Nat.zero_add]
  · rintro ⟨n, hn, hcode⟩
    obtain ⟨before, after, hentries⟩ := List.append_of_mem ((hmem n).2 hn)
    refine ⟨before, n, after, hentries, ?_⟩
    rw [hcode, sum_before hentries, Nat.zero_mul, Nat.zero_add]

/-! ## Symbols of given codes -/

/-- Every number below the count of a length is the place of one of its symbols. -/
lemma exists_count_take_eq {lengths : List Nat} {n i : Nat} (hi : i < lengths.count n) :
    ∃ j : Nat, lengths[j]? = some n ∧ (lengths.take j).count n = i := by
  induction lengths generalizing i with
  | nil => simp at hi
  | cons l ls ih =>
    by_cases hl : l = n
    · subst hl
      cases i with
      | zero => exact ⟨0, rfl, rfl⟩
      | succ i =>
        obtain ⟨j, hj, hcount⟩ := ih (by simpa using hi)
        exact ⟨j + 1, hj, by rw [List.take_succ_cons, List.count_cons_self, hcount]⟩
    · rw [List.count_cons_of_ne hl] at hi
      obtain ⟨j, hj, hcount⟩ := ih hi
      exact ⟨j + 1, hj, by rw [List.take_succ_cons, List.count_cons_of_ne hl, hcount]⟩

/-- Bits that are the beginning of a longer code exceed the codes of their length. -/
lemma limit_lt_of_incomplete {lengths : List Nat} {n v : Nat}
    (hlook : (ofCode lengths).lookup n v = .incomplete) :
    limitFor lengths (shortest lengths) (longest lengths) n < v := by
  unfold lookup at hlook
  split at hlook
  · cases hlook
  rename_i hn
  split at hlook
  · simp only at hlook
    split at hlook
    · cases hlook
    split at hlook <;> cases hlook
  · rename_i hv
    rw [ofCode_eq,
      limit_getD _ _ _ (by simp only [maxCodeLength, tableLength] at hn ⊢; omega)] at hv
    omega

/-- The bits of a symbol do not exceed the codes of their length. -/
lemma le_limit_of_symbol {lengths : List Nat} {n v j : Nat}
    (hlook : (ofCode lengths).lookup n v = .symbol j) :
    v ≤ limitFor lengths (shortest lengths) (longest lengths) n := by
  unfold lookup at hlook
  split at hlook
  · cases hlook
  rename_i hn
  split at hlook
  · rename_i hv
    rwa [ofCode_eq,
      limit_getD _ _ _ (by simp only [maxCodeLength, tableLength] at hn ⊢; omega)] at hv
  · cases hlook

section Codes

variable {lengths : List Nat} (h : Admissible lengths)
include h

/-- Zero is a code of the longest length, or the beginning of one is. -/
lemma one_le_taken_add_count :
    1 ≤ taken lengths (longest lengths) + lengths.count (longest lengths) := by
  obtain ⟨l, hl⟩ := List.exists_mem_of_ne_nil lengths h.ne_nil
  have hcount := List.one_le_count_iff.2 hl
  have hle := two_pow_mul_taken_le lengths l (longest lengths - l)
  rw [Nat.add_sub_cancel' (le_longest hl)] at hle
  calc 1 ≤ 2 ^ (longest lengths - l) * (taken lengths l + lengths.count l) :=
        Nat.mul_pos (Nat.two_pow_pos _) (by omega)
    _ ≤ _ := hle

/-- **The symbol of a code**: bits that a table turns into a symbol are its code, unless they begin
with a shorter code. -/
lemma eq_codeValue_of_lookup (hl : lengths.length ≤ maxAlphabet) {n v j : Nat}
    (h₁ : shortest lengths ≤ n) (h₂ : n ≤ longest lengths) (hv : taken lengths n ≤ v)
    (hlook : (ofCode lengths).lookup n v = .symbol j) :
    lengths[j]? = some n ∧ v = codeValue lengths j n := by
  have hlimit := le_limit_of_symbol hlook
  rw [limitFor_eq h h₁ h₂] at hlimit
  obtain ⟨i, hi, hcount⟩ :=
    exists_count_take_eq (show v - taken lengths n < lengths.count n by omega)
  have hcode : v = codeValue lengths i n := by
    rw [codeValue, hcount]
    omega
  have hsymbol := lookup_codeValue h hl hi
  rw [← hcode, hlook] at hsymbol
  cases hsymbol
  exact ⟨hi, hcode⟩

/-- Bits that give a symbol, if one bit less was incomplete, are no longer than the longest code,
and no less than what shorter codes take.

**Proof sketch.** One bit less exceeds the codes of its length, so that twice its value is no less
than what these codes and shorter ones take (`taken_succ`). Beyond the longest code, only zero has a
symbol, and what exceeds a code is not zero. -/
lemma taken_le_of_symbol {m v b j : Nat} (h₁ : shortest lengths ≤ m)
    (hbefore : (ofCode lengths).lookup m v = .incomplete)
    (hlook : (ofCode lengths).lookup (m + 1) (2 * v + b) = .symbol j) :
    m + 1 ≤ longest lengths ∧ taken lengths (m + 1) ≤ 2 * v + b := by
  have hover := limit_lt_of_incomplete hbefore
  have hunder := le_limit_of_symbol hlook
  rcases Nat.lt_trichotomy m (longest lengths) with hm | rfl | hm
  · rw [limitFor_eq h h₁ hm.le] at hover
    rw [taken_succ]
    omega
  · have hpos := one_le_taken_add_count h
    rw [limitFor_eq h h₁ le_rfl] at hover
    rw [limitFor, if_neg (by omega)] at hunder
    omega
  · rw [limitFor, if_neg (by omega)] at hover hunder
    omega

/-- **The first symbol is that of a codeword.** If all shorter beginnings of some bits were found
incomplete, and the first `n` of them give a symbol, then these are its codeword. -/
lemma mem_canonicalCode_of_lookup (hl : lengths.length ≤ maxAlphabet) {q : List Bool} {n j : Nat}
    (hn : n ≤ q.length) (h₁ : shortest lengths ≤ n)
    (hbefore : ∀ k, shortest lengths ≤ k → k < n →
      (ofCode lengths).lookup k (ofBits (q.take k)) = .incomplete)
    (hlook : (ofCode lengths).lookup n (ofBits (q.take n)) = .symbol j) :
    (j, q.take n) ∈ canonicalCode lengths := by
  have hrange : n ≤ longest lengths ∧ taken lengths n ≤ ofBits (q.take n) := by
    rcases Nat.eq_or_lt_of_le h₁ with rfl | hlt
    · rw [taken_eq_zero fun _ => shortest_le]
      exact ⟨h.shortest_le_longest, Nat.zero_le _⟩
    · obtain ⟨m, rfl⟩ : ∃ m, n = m + 1 := ⟨n - 1, by omega⟩
      have hbits : ofBits (q.take (m + 1)) = 2 * ofBits (q.take m) + q[m].toNat := by
        rw [List.take_succ_eq_append_getElem hn, ofBits_append, Nat.mul_comm]
        simp [ofBits]
      rw [hbits] at hlook ⊢
      exact taken_le_of_symbol h (by omega) (hbefore m (by omega) (by omega)) hlook
  obtain ⟨hj, hvalue⟩ := eq_codeValue_of_lookup h hl h₁ hrange.1 hrange.2 hlook
  refine mem_canonicalCode.2 ⟨n, hj, ?_⟩
  have hlen : (q.take n).length = n := List.length_take_of_le hn
  have hbits := bitsOf_ofBits (q.take n)
  rw [hlen] at hbits
  rw [← hvalue, hbits]

/-- **A codeword is recognised**, and none of its beginnings. -/
lemma lookup_of_mem_canonicalCode (hl : lengths.length ≤ maxAlphabet) (hkraft : Kraft lengths)
    {j : Nat} {c : List Bool} (hc : (j, c) ∈ canonicalCode lengths) :
    shortest lengths ≤ c.length ∧ (ofCode lengths).lookup c.length (ofBits c) = .symbol j ∧
      ∀ k, shortest lengths ≤ k → k < c.length →
        (ofCode lengths).lookup k (ofBits (c.take k)) = .incomplete := by
  obtain ⟨n, hn, hcode⟩ := mem_canonicalCode.1 hc
  obtain rfl : c = bitsOf n (codeValue lengths j n) := hcode
  have hlt := codeValue_lt h hkraft hn
  rw [length_bitsOf]
  refine ⟨shortest_le (List.mem_of_getElem? hn), ?_, fun k hk hkn => ?_⟩
  · rw [ofBits_bitsOf, Nat.mod_eq_of_lt hlt]
    exact lookup_codeValue h hl hn
  · have hbits : (bitsOf n (codeValue lengths j n)).take k =
        bitsOf k (codeValue lengths j n >>> (n - k)) := by
      have hsplit := bitsOf_add k (n - k) (codeValue lengths j n)
      rw [Nat.add_sub_cancel' hkn.le] at hsplit
      rw [hsplit, List.take_left' (length_bitsOf _ _)]
    have hshift : codeValue lengths j n >>> (n - k) < 2 ^ k := by
      rw [Nat.shiftRight_eq_div_pow, Nat.div_lt_iff_lt_mul (Nat.two_pow_pos _), ← pow_add,
        Nat.add_sub_cancel' hkn.le]
      exact hlt
    rw [hbits, ofBits_bitsOf, Nat.mod_eq_of_lt hshift]
    exact lookup_shiftRight_codeValue h hn hk hkn

end Codes

/-! ## Reading a code -/

/-- How reading a code ended. -/
structure Decoded where
  /-- What its bits stand for; they are incomplete if the input ended. -/
  reading : Reading
  /-- Whether it has more bits than the shortest code. -/
  more : Bool
  /-- How many bits it has. -/
  length : Nat
  /-- Their value. -/
  value : Nat
  /-- The reader behind it. -/
  rest : BitReader

/-- How many bits of a code are read next: those of the shortest code, or one more. -/
def nextWidth (more : Bool) (length : Nat) : Nat :=
  if more then 1 else max 1 length

/-- The value of the bits of a code, those read last included. -/
def nextValue (more : Bool) (value v : Nat) : Nat :=
  if more then 2 * value + v else v

/-- Read a code, bit by bit, until it is complete or found to be none. It is to have `length` bits
next; if it has `more` of them than the shortest code, all but one were read before and have the
given value. -/
def decodeFrom (t : CodeTable) (more : Bool) (length value : Nat) (r : BitReader) : Decoded :=
  match _h : r.read (nextWidth more length) with
  | (none, r') => ⟨.incomplete, more, length, value, r'⟩
  | (some v, r') =>
    match t.lookup length (nextValue more value v) with
    | .incomplete => t.decodeFrom true (length + 1) (nextValue more value v) r'
    | reading => ⟨reading, more, length, nextValue more value v, r'⟩
termination_by r.bits
decreasing_by
  have := BitReader.bits_of_read_some _h
  have : 0 < nextWidth more length := by
    rw [nextWidth]
    split <;> omega
  omega

/-- Read a code from its first bit on. -/
def decode (t : CodeTable) (r : BitReader) : Decoded :=
  t.decodeFrom false t.minLength 0 r

namespace Decoded

/-- Go on with a block after one of its codes was read. -/
def resume (place : Place) (g : Gathering) (d : Decoded) : Phase.Run :=
  match d.reading with
  | .symbol sym =>
    match Phase.acceptSymbol place (.code place d.more d.length d.value) sym g with
    | .wait p => p.run d.rest
    | .stop s m => .stopped s m d.rest
  | .incomplete => .starved (.code place d.more d.length d.value g) d.rest
  | .invalid => .stopped .dataError (.reading (.code place d.more d.length d.value g)) d.rest
  | .unfilled => .stopped .outOfBounds .idle d.rest

/-- Decoding that ends without a symbol stops with an error in the data. -/
lemma resume_of_invalid {d : Decoded} (h : d.reading = .invalid) (place : Place) (g : Gathering) :
    d.resume place g =
      .stopped .dataError (.reading (.code place d.more d.length d.value g)) d.rest := by
  rw [resume, h]

/-- The code was found in some bits: from `first` bits on, all of their beginnings that are shorter
than the code are incomplete, and the code is what its own bits stand for, if there are that
many. -/
structure FoundIn (d : Decoded) (t : CodeTable) (q : List Bool) (first : Nat) : Prop where
  first_le : first ≤ d.length
  before : ∀ k, first ≤ k → k < d.length → t.lookup k (ofBits (q.take k)) = .incomplete
  decided : d.length ≤ q.length → d.reading = t.lookup d.length (ofBits (q.take d.length)) ∧
    d.reading ≠ .incomplete ∧ d.rest.queue = q.drop d.length
  starved : q.length < d.length → d.reading = .incomplete

/-- One bit less was not enough. -/
lemma FoundIn.of_incomplete {t : CodeTable} {q : List Bool} {n : Nat} {d : Decoded}
    (h : d.FoundIn t q (n + 1)) (hn : t.lookup n (ofBits (q.take n)) = .incomplete) :
    d.FoundIn t q n where
  first_le := Nat.le_of_succ_le h.first_le
  before k hk hlt := by
    rcases Nat.eq_or_lt_of_le hk with rfl | hk
    · exact hn
    · exact h.before k hk hlt
  decided := h.decided
  starved := h.starved

end Decoded

/-- **Reading a block is reading its codes.** -/
lemma run_code (place : Place) (more : Bool) (length value : Nat) (g : Gathering) (r : BitReader) :
    (Phase.code place more length value g).run r =
      (g.table.decodeFrom more length value r).resume place g := by
  have hwidth : ∀ more length value, nextWidth more length =
      (Phase.code place more length value g).width := by
    intro more length value
    cases more <;> rfl
  have haccept : ∀ more length value v, (Phase.code place more length value g).accept v =
      Phase.acceptCode place more length (nextValue more value v) g := fun _ _ _ _ => rfl
  generalize ht : g.table = t
  fun_induction decodeFrom t more length value r with
  | case1 more length value r r' hread =>
    rw [hwidth more length value] at hread
    rw [Phase.run_of_none hread]
    rfl
  | case2 more length value r v r' hread hlook ih =>
    rw [hwidth more length value] at hread
    refine (Phase.run_of_wait hread ?_).trans ih
    exact (haccept more length value v).trans (Phase.acceptCode_of_incomplete (ht ▸ hlook))
  | case3 more length value r v r' hread hne =>
    rw [hwidth more length value] at hread
    rw [Phase.run_eq, hread]
    simp only [haccept, Phase.acceptCode, ht, Decoded.resume]
    cases hlook : t.lookup length (nextValue more value v) with
    | incomplete => exact (hne hlook).elim
    | symbol sym => rfl
    | invalid => rfl
    | unfilled => rfl

/-! ## Codes in bits -/

/-- A read that succeeds moves bits from the queue to those that were seen. -/
lemma seen_of_read {more : Bool} {length v : Nat} {r r' : BitReader} (hr : r.live ≤ 27)
    {seen : List Bool} (hwidth : nextWidth more length ≤ 20)
    (hlength : seen.length + nextWidth more length = length) (hmore : more = false → seen = [])
    (hread : r.read (nextWidth more length) = (some v, r')) :
    ∃ seen', seen'.length = length ∧ nextValue more (ofBits seen) v = ofBits seen' ∧
      seen ++ r.queue = seen' ++ r'.queue ∧ r'.live ≤ 27 := by
  obtain ⟨bits, hbits, rfl, hqueue, hr'⟩ := BitReader.queue_of_read_some hwidth hr hread
  refine ⟨seen ++ bits, by rw [List.length_append, hbits, hlength],
    ?_, by rw [hqueue, List.append_assoc], hr'⟩
  cases more with
  | false => rw [hmore rfl, nextValue, List.nil_append, if_neg (by decide)]
  | true =>
    rw [ofBits_append, hbits, nextValue, nextWidth, if_pos rfl, if_pos rfl, pow_one, Nat.mul_comm]

/-- **Reading a code finds it in the bits**: those `seen` before and those of the reader.

**Proof sketch.** Induction along the reads. Each of them moves some bits from the queue to those
that were seen, which stay the beginning of all bits. -/
lemma foundIn_decodeFrom (t : CodeTable) {more : Bool} {length value : Nat} {r : BitReader}
    (hr : r.live ≤ 27) {seen : List Bool} (hwidth : nextWidth more length ≤ 20)
    (hlength : seen.length + nextWidth more length = length) (hvalue : value = ofBits seen)
    (hmore : more = false → seen = []) :
    (t.decodeFrom more length value r).FoundIn t (seen ++ r.queue) length := by
  fun_induction decodeFrom t more length value r generalizing seen with
  | case1 more length value r r' hread =>
    obtain ⟨-, hshort, -⟩ := BitReader.queue_of_read_none hwidth hr hread
    refine ⟨le_rfl, fun k h₁ h₂ => absurd h₁ (Nat.not_le.2 h₂), fun hle => ?_, fun _ => rfl⟩
    have hle : length ≤ (seen ++ r.queue).length := hle
    rw [List.length_append] at hle
    omega
  | case2 more length value r v r' hread hlook ih =>
    subst hvalue
    obtain ⟨seen', hlen, hvalue, hqueue, hr'⟩ := seen_of_read hr hwidth hlength hmore hread
    have hnext : seen'.length + nextWidth true (length + 1) = length + 1 := by
      rw [hlen]
      rfl
    have hrest := ih hr' (show 1 ≤ 20 by decide) hnext hvalue (by simp)
    rw [hqueue]
    refine hrest.of_incomplete ?_
    rw [List.take_left' hlen, ← hvalue]
    exact hlook
  | case3 more length value r v r' hread hne =>
    subst hvalue
    obtain ⟨seen', hlen, hvalue, hqueue, hr'⟩ := seen_of_read hr hwidth hlength hmore hread
    rw [hqueue]
    refine ⟨le_rfl, fun k h₁ h₂ => absurd h₁ (Nat.not_le.2 h₂), fun _ => ⟨?_, hne, ?_⟩,
      fun hlt => ?_⟩
    · rw [List.take_left' hlen, ← hvalue]
    · rw [List.drop_left' hlen]
    · have hlt : (seen' ++ r'.queue).length < length := hlt
      rw [List.length_append] at hlt
      omega

/-! ## Decoding -/

section Decoding

variable {lengths : List Nat} (h : Admissible lengths) (hl : lengths.length ≤ maxAlphabet)
  {q : List Bool} {d : Decoded} (hd : d.FoundIn (ofCode lengths) q (shortest lengths))
include h hl hd

/-- A symbol that is found begins the bits with its codeword. -/
lemma mem_canonicalCode_of_foundIn {j : Nat} (hj : d.reading = .symbol j) :
    (j, q.take d.length) ∈ canonicalCode lengths ∧ d.rest.queue = q.drop d.length := by
  have hle : d.length ≤ q.length := by
    by_contra hlt
    rw [hd.starved (Nat.not_le.1 hlt)] at hj
    cases hj
  obtain ⟨hlook, -, hrest⟩ := hd.decided hle
  exact ⟨mem_canonicalCode_of_lookup h hl hle hd.first_le hd.before (hlook.symm.trans hj), hrest⟩

/-- **A codeword at the front of the bits is found.**

**Proof sketch.** It is not passed over, since the table recognises it, and nothing shorter is
found, since its beginnings are incomplete. -/
lemma reading_of_codeword (hkraft : Kraft lengths) {j : Nat} {c rest : List Bool}
    (hc : (j, c) ∈ canonicalCode lengths) (hq : q = c ++ rest) :
    d.reading = .symbol j ∧ d.rest.queue = rest := by
  obtain ⟨hshort, hsymbol, hbegin⟩ := lookup_of_mem_canonicalCode h hl hkraft hc
  have hlen : d.length = c.length := by
    rcases Nat.lt_trichotomy d.length c.length with hlt | heq | hgt
    · obtain ⟨hlook, hne, -⟩ := hd.decided (by rw [hq, List.length_append]; omega)
      rw [hq, List.take_append_of_le_length hlt.le, hbegin _ hd.first_le hlt] at hlook
      exact absurd hlook hne
    · exact heq
    · have hlook := hd.before _ hshort hgt
      rw [hq, List.take_left, hsymbol] at hlook
      cases hlook
  obtain ⟨hlook, -, hrest⟩ := hd.decided (by rw [hq, hlen, List.length_append]; omega)
  rw [hlen, hq] at hlook hrest
  rw [List.take_left, hsymbol] at hlook
  rw [List.drop_left] at hrest
  exact ⟨hlook, hrest⟩

/-- **Bits without a codeword are invalid**, when there are more of them than a code can have. -/
lemma reading_eq_invalid (hlen : maxCodeLength < q.length)
    (hnone : ∀ e ∈ canonicalCode lengths, ¬ e.2 <+: q) : d.reading = .invalid := by
  have hle : d.length ≤ maxCodeLength + 1 := by
    by_contra hlt
    have hshort := h.shortest_le_longest.trans h.longest_le_max
    have hlook := hd.before (maxCodeLength + 1) (by omega) (by omega)
    rw [lookup, if_pos (Nat.lt_succ_self _)] at hlook
    cases hlook
  obtain ⟨hlook, hne, -⟩ := hd.decided (hle.trans hlen)
  cases hreading : d.reading with
  | invalid => rfl
  | incomplete => exact absurd hreading hne
  | unfilled => exact absurd (hlook.symm.trans hreading) (lookup_ne_unfilled h _ _)
  | symbol j =>
    have hmem := (mem_canonicalCode_of_foundIn h hl hd hreading).1
    exact absurd (List.take_prefix _ _) (hnone _ hmem)

end Decoding

/-- **Tables decode the canonical code.** Let the code lengths of an alphabet satisfy Kraft's
inequality. Reading a code gives symbol `j`, with some bits left, if and only if the bits are its
codeword and then those that are left. More than 20 bits that begin with no codeword are invalid
data. -/
theorem decode_canonicalCode {lengths : List Nat}
    (hcount : 3 ≤ lengths.length ∧ lengths.length ≤ 258) (hrange : ∀ n ∈ lengths, 1 ≤ n ∧ n ≤ 20)
    (hkraft : Kraft lengths) {g : Gathering} (hg : g.table = ofCode lengths) (place : Place)
    {r : BitReader} (hr : r.live ≤ 27) :
    (Phase.code place false g.table.minLength 0 g).run r = (g.table.decode r).resume place g ∧
      (∀ j rest, (g.table.decode r).reading = .symbol j ∧ (g.table.decode r).rest.queue = rest ↔
        ∃ c, (j, c) ∈ canonicalCode lengths ∧ r.queue = c ++ rest) ∧
      (21 ≤ r.queue.length → (∀ e ∈ canonicalCode lengths, ¬ e.2 <+: r.queue) →
        ∃ p r', (Phase.code place false g.table.minLength 0 g).run r =
          .stopped .dataError (.reading p) r') := by
  have h : Admissible lengths :=
    ⟨List.ne_nil_of_length_pos (by omega), fun n hn => (hrange n hn).1, fun n hn => (hrange n hn).2⟩
  have hrun := run_code place false g.table.minLength 0 g r
  rw [hg] at hrun ⊢
  have hfound :
      ((ofCode lengths).decode r).FoundIn (ofCode lengths) r.queue (shortest lengths) := by
    have hone := h.one_le_shortest
    have hmax : shortest lengths ≤ 20 := h.shortest_le_longest.trans h.longest_le_max
    have hwidth : nextWidth false (shortest lengths) = shortest lengths := max_eq_right hone
    have hseen : ([] : List Bool).length + nextWidth false (shortest lengths) =
        shortest lengths := by
      rw [hwidth, List.length_nil, Nat.zero_add]
    exact foundIn_decodeFrom _ hr (hwidth.symm ▸ hmax) hseen rfl fun _ => rfl
  refine ⟨hrun, fun j rest => ⟨?_, ?_⟩, fun hlen hnone => ?_⟩
  · rintro ⟨hj, rfl⟩
    obtain ⟨hmem, hrest⟩ := mem_canonicalCode_of_foundIn h hcount.2 hfound hj
    exact ⟨_, hmem, by rw [hrest, List.take_append_drop]⟩
  · rintro ⟨c, hc, hq⟩
    exact reading_of_codeword h hcount.2 hfound hkraft hc hq
  · have hinvalid := reading_eq_invalid h hcount.2 hfound hlen hnone
    exact ⟨_, _, hrun.trans (Decoded.resume_of_invalid hinvalid place g)⟩

/-- A code with no codewords of two and three bits, and bits that are left over by it: four bits are
read for a symbol, and a long run of ones is invalid. -/
theorem decode_sparse_code :
    Kraft [1, 4, 4] ∧ ∃ g : Gathering, g.table = ofCode [1, 4, 4] ∧
      (g.table.decode ⟨0, 0, [0x9A]⟩).reading = .symbol 2 ∧
      (g.table.decode ⟨0, 0, [0x9A]⟩).rest.queue = [true, false, true, false] ∧
      ∃ p r', (Phase.code .first false g.table.minLength 0 g).run ⟨0, 0, [0xFF, 0xFF, 0xFF]⟩ =
        .stopped .dataError (.reading p) r' := by
  have hkraft : Kraft [1, 4, 4] := by decide
  let g : Gathering := { Gathering.init ⟨0, #[], #[], #[]⟩ with table := ofCode [1, 4, 4] }
  have hdecode := fun r hr => decode_canonicalCode (by decide) (by decide) hkraft
    (show g.table = ofCode [1, 4, 4] from rfl) .first (r := r) hr
  obtain ⟨-, hsymbol, -⟩ := hdecode ⟨0, 0, [0x9A]⟩ (by decide)
  obtain ⟨hreading, hrest⟩ := (hsymbol 2 [true, false, true, false]).2
    ⟨[true, false, false, true], by decide, by decide⟩
  obtain ⟨-, -, hinvalid⟩ := hdecode ⟨0, 0, [0xFF, 0xFF, 0xFF]⟩ (by decide)
  exact ⟨hkraft, g, rfl, hreading, hrest, hinvalid (by decide) (by decide)⟩

end CodeTable

end Nsis.Bzip2
