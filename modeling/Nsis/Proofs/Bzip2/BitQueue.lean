import Mathlib.Tactic.Ring
import Nsis.Bzip2.BitReader

/-!
# The bit reader as a queue

A reader stands for a list of bits: those waiting in its word, then those of its input, the highest
bit of every byte first. Reading a field takes the field from the front of this list, whatever the
dead bits of the word above the waiting ones are.

## Main definitions

* `Nsis.Bzip2.bitsOf` — the bits of a number, highest first.
* `Nsis.Bzip2.ofBits` — the number that a list of bits denotes.
* `Nsis.Bzip2.toBits` — the bits of a byte string.
* `Nsis.Bzip2.BitReader.queue` — the bits that a reader still holds.

## Main results

* `Nsis.Bzip2.BitReader.read_of_queue` — a field is read from the front of the queue.
* `Nsis.Bzip2.BitReader.queue_of_read_some`, `Nsis.Bzip2.BitReader.queue_of_read_none` — what was in
  the queue.
* `Nsis.Bzip2.BitReader.read_lt` — a field fits into its width.
-/

namespace Nsis.Bzip2

/-! ## Bits and numbers -/

/-- The `n` lowest bits of a number, the highest first. -/
def bitsOf : (n v : Nat) → List Bool
  | 0, _ => []
  | n + 1, v => v.testBit n :: bitsOf n v

/-- The number that a list of bits denotes, the highest bit first. -/
def ofBits : List Bool → Nat
  | [] => 0
  | b :: bs => b.toNat * 2 ^ bs.length + ofBits bs

/-- The bits of a byte string, the highest bit of every byte first. -/
def toBits (bytes : Bytes) : List Bool :=
  bytes.flatMap fun b => bitsOf 8 b.toNat

/-- A number is written with as many bits as it is given. -/
@[simp] lemma length_bitsOf (n v : Nat) : (bitsOf n v).length = n := by
  induction n with
  | zero => rfl
  | succ n ih => simp [bitsOf, ih]

/-- No bytes have no bits. -/
@[simp] lemma toBits_nil : toBits [] = [] := rfl

/-- The bits of a byte come before those of the bytes behind it. -/
@[simp] lemma toBits_cons (b : UInt8) (bytes : Bytes) :
    toBits (b :: bytes) = bitsOf 8 b.toNat ++ toBits bytes := rfl

/-- The bits of two rows of bytes are those of the first and then those of the second. -/
lemma toBits_append (xs ys : Bytes) : toBits (xs ++ ys) = toBits xs ++ toBits ys :=
  List.flatMap_append

/-- Only the lowest `n` bits of a number count. -/
lemma bitsOf_congr {n v w : Nat} (h : ∀ i < n, v.testBit i = w.testBit i) :
    bitsOf n v = bitsOf n w := by
  induction n with
  | zero => rfl
  | succ n ih =>
    simp only [bitsOf]
    rw [h n (Nat.lt_succ_self n), ih fun i hi => h i (Nat.lt_succ_of_lt hi)]

/-- The bits above the lowest `n` come first. -/
lemma bitsOf_add (m n v : Nat) : bitsOf (m + n) v = bitsOf m (v >>> n) ++ bitsOf n v := by
  induction m with
  | zero => simp [bitsOf]
  | succ m ih =>
    rw [show m + 1 + n = m + n + 1 by omega]
    simp only [bitsOf, List.cons_append, ih, Nat.testBit_shiftRight]
    rw [Nat.add_comm n m]

/-- What bits denote is below the power of two that belongs to their number. -/
lemma ofBits_lt (bs : List Bool) : ofBits bs < 2 ^ bs.length := by
  induction bs with
  | nil => simp [ofBits]
  | cons b bs ih =>
    have hb := Bool.toNat_le b
    simp only [ofBits, List.length_cons, pow_succ]
    have := Nat.mul_le_mul_right (2 ^ bs.length) hb
    omega

/-- The bits that come first count for more. -/
lemma ofBits_append (xs ys : List Bool) :
    ofBits (xs ++ ys) = ofBits xs * 2 ^ ys.length + ofBits ys := by
  induction xs with
  | nil => simp [ofBits]
  | cons b xs ih =>
    simp only [List.cons_append, ofBits, ih, List.length_append, pow_add]
    ring

/-- Reading the bits of a number back gives its value below `2 ^ n`. -/
lemma ofBits_bitsOf (n v : Nat) : ofBits (bitsOf n v) = v % 2 ^ n := by
  induction n with
  | zero => simp [bitsOf, ofBits, Nat.mod_one]
  | succ n ih =>
    simp only [bitsOf, ofBits, length_bitsOf, ih, Nat.toNat_testBit]
    rw [Nat.mod_pow_succ]
    ring

/-- Every list of bits is that of its number. -/
lemma bitsOf_ofBits (bs : List Bool) : bitsOf bs.length (ofBits bs) = bs := by
  induction bs with
  | nil => rfl
  | cons b bs ih =>
    have hlt := ofBits_lt bs
    simp only [List.length_cons, bitsOf, ofBits]
    congr 1
    · rw [Nat.mul_comm, Nat.testBit_two_pow_mul_add _ hlt]
      cases b <;> simp
    · refine (bitsOf_congr fun i hi => ?_).trans ih
      rw [Nat.mul_comm, Nat.testBit_two_pow_mul_add _ hlt, if_pos hi]

/-- Appending a byte to a number of up to three bytes. -/
lemma toNat_appendByte (x : UInt32) {c : Nat} (hx : x.toNat < 2 ^ 24) (hc : c < 2 ^ 8) :
    ((x <<< 8) ||| UInt32.ofNat c).toNat = 2 ^ 8 * x.toNat + c := by
  have h8 : (8 : UInt32).toNat % 32 = 8 := rfl
  rw [UInt32.toNat_or, UInt32.toNat_shiftLeft, h8, UInt32.toNat_ofNat',
    Nat.mod_eq_of_lt (b := 2 ^ 32), Nat.mod_eq_of_lt (b := 2 ^ 32),
    ← Nat.shiftLeft_add_eq_or_of_lt hc, Nat.shiftLeft_eq, Nat.mul_comm]
  · omega
  · rw [Nat.shiftLeft_eq]
    omega

namespace BitReader

/-! ## The queue of a reader -/

/-- The bits that a reader still holds. -/
def queue (r : BitReader) : List Bool :=
  bitsOf r.live r.word.toNat ++ toBits r.input

/-- Shifting a byte into the word appends its bits, as long as no waiting bit is lost. -/
lemma bitsOf_shiftIn (word : UInt32) {live : Nat} (b : UInt8) (h : live + 8 ≤ 32) :
    bitsOf (live + 8) ((word <<< 8) ||| b.toUInt32).toNat =
      bitsOf live word.toNat ++ bitsOf 8 b.toNat := by
  have hb : b.toNat < 2 ^ 8 := b.toNat_lt
  have hbit : ∀ i, i < 32 → ((word <<< 8) ||| b.toUInt32).toNat.testBit i =
      (decide (8 ≤ i) && word.toNat.testBit (i - 8) || b.toNat.testBit i) := by
    intro i hi
    have h8 : (8 : UInt32).toNat % 32 = 8 := rfl
    rw [UInt32.toNat_or, UInt32.toNat_shiftLeft, h8, Nat.testBit_or, Nat.testBit_mod_two_pow,
      Nat.testBit_shiftLeft, UInt8.toNat_toUInt32]
    simp [hi]
  have hhigh : ∀ i, 8 ≤ i → b.toNat.testBit i = false := fun i hi =>
    Nat.testBit_lt_two_pow (lt_of_lt_of_le hb (Nat.pow_le_pow_right (by decide) hi))
  rw [bitsOf_add]
  congr 1
  · refine bitsOf_congr fun i hi => ?_
    rw [Nat.testBit_shiftRight, hbit _ (by omega), hhigh _ (by omega)]
    simp
  · refine bitsOf_congr fun i hi => ?_
    rw [hbit i (by omega)]
    simp [Nat.not_le.2 hi]

/-- The mask for a field of `n` bits. -/
lemma toNat_mask {n : Nat} (hn : n < 32) :
    (((1 : UInt32) <<< UInt32.ofNat n) - 1).toNat = 2 ^ n - 1 := by
  have hm : (UInt32.ofNat n).toNat % 32 = n := by
    rw [UInt32.toNat_ofNat']
    omega
  have hpow : 2 ^ n < 2 ^ 32 := Nat.pow_lt_pow_right (by decide) hn
  have hone : ((1 : UInt32) <<< UInt32.ofNat n).toNat = 2 ^ n := by
    rw [UInt32.toNat_shiftLeft, hm, Nat.shiftLeft_eq, Nat.mod_eq_of_lt]
    · simp
    · simpa using hpow
  rw [UInt32.toNat_sub_of_le, hone]
  · rfl
  · rw [UInt32.le_iff_toNat_le, hone]
    exact Nat.two_pow_pos n

/-- The field of the next `n` waiting bits. -/
lemma fieldOf_eq (word : UInt32) {live n : Nat} (hn : n ≤ live) (hl : live < 32) :
    fieldOf word live n = (word.toNat >>> (live - n)) % 2 ^ n := by
  have hs : (UInt32.ofNat (live - n)).toNat % 32 = live - n := by
    rw [UInt32.toNat_ofNat']
    omega
  rw [fieldOf, UInt32.toNat_and, UInt32.toNat_shiftRight, hs, toNat_mask (by omega),
    Nat.and_two_pow_sub_one_eq_mod]

/-- A field is below the power of two that belongs to its width. -/
lemma readFrom_lt {n : Nat} (hn : n < 32) {word : UInt32} {live : Nat} {input : Bytes} {v : Nat}
    {r : BitReader} (h : readFrom n word live input = (some v, r)) : v < 2 ^ n := by
  fun_induction readFrom n word live input with
  | case1 word live input hle =>
    simp only [Prod.mk.injEq, Option.some.injEq] at h
    obtain ⟨rfl, -⟩ := h
    rw [fieldOf, UInt32.toNat_and, toNat_mask hn, Nat.and_two_pow_sub_one_eq_mod]
    exact Nat.mod_lt _ (Nat.two_pow_pos n)
  | case2 word live hle => simp at h
  | case3 word live hle b rest ih => exact ih h

/-- A field fits into its width. -/
lemma read_lt {n v : Nat} {r r' : BitReader} (hn : n < 32) (h : r.read n = (some v, r')) :
    v < 2 ^ n :=
  readFrom_lt hn h

/-- Taking a field that waits already takes it from the front of the queue. -/
lemma queue_of_le (word : UInt32) {live n : Nat} (input : Bytes) (hn : n ≤ live) (hl : live < 32) :
    ∃ bits, bits.length = n ∧ fieldOf word live n = ofBits bits ∧
      queue ⟨word, live, input⟩ = bits ++ queue ⟨word, live - n, input⟩ := by
  refine ⟨bitsOf n (word.toNat >>> (live - n)), length_bitsOf _ _, ?_, ?_⟩
  · rw [fieldOf_eq word hn hl, ofBits_bitsOf]
  · have hsplit : live = n + (live - n) := by omega
    simp only [queue, ← List.append_assoc]
    rw [← bitsOf_add, ← hsplit]

/-! ## Reading -/

/-- **Reading is taking from the queue**: a read of at most 20 bits delivers the next bits and
leaves the others; if there are too few, it leaves all of them.

**Proof sketch.** Induction on the input. As long as fewer than 20 bits wait, a byte can be shifted
in without losing one (`bitsOf_shiftIn`), and the queue stays the same list. Once enough bits wait,
they are the front of the queue (`queue_of_le`). -/
lemma readFrom_queue {n : Nat} (hn : n ≤ 20) (word : UInt32) (live : Nat) (input : Bytes)
    (hl : live ≤ 27) :
    (∃ bits r, readFrom n word live input = (some (ofBits bits), r) ∧ bits.length = n ∧
        queue ⟨word, live, input⟩ = bits ++ r.queue ∧ r.live ≤ 27) ∨
      (∃ r, readFrom n word live input = (none, r) ∧ r.queue = queue ⟨word, live, input⟩ ∧
        r.queue.length < n) := by
  induction input generalizing word live with
  | nil =>
    by_cases h : n ≤ live
    · obtain ⟨bits, hlen, hval, hq⟩ := queue_of_le word [] h (by omega)
      refine Or.inl ⟨bits, ⟨word, live - n, []⟩, ?_, hlen, hq, ?_⟩
      · rw [readFrom, if_pos h, hval]
      · simp only
        omega
    · refine Or.inr ⟨⟨word, live, []⟩, ?_, rfl, ?_⟩
      · rw [readFrom, if_neg h]
      · simp only [queue, toBits_nil, List.append_nil, length_bitsOf]
        omega
  | cons b input ih =>
    by_cases h : n ≤ live
    · obtain ⟨bits, hlen, hval, hq⟩ := queue_of_le word (b :: input) h (by omega)
      refine Or.inl ⟨bits, ⟨word, live - n, b :: input⟩, ?_, hlen, hq, ?_⟩
      · rw [readFrom, if_pos h, hval]
      · simp only
        omega
    · have hq : queue ⟨word, live, b :: input⟩ =
          queue ⟨(word <<< 8) ||| b.toUInt32, live + 8, input⟩ := by
        simp only [queue, bitsOf_shiftIn word b (show live + 8 ≤ 32 by omega), toBits_cons,
          List.append_assoc]
      rw [readFrom, if_neg h, hq]
      exact ih _ _ (by omega)

/-- A field is read from the front of the queue. -/
theorem read_of_queue {r : BitReader} {bits rest : List Bool} (hr : r.live ≤ 27)
    (hn : bits.length ≤ 20) (hq : r.queue = bits ++ rest) :
    ∃ r', r.read bits.length = (some (ofBits bits), r') ∧ r'.queue = rest ∧ r'.live ≤ 27 := by
  rcases readFrom_queue hn r.word r.live r.input hr with
    ⟨bits', r', hread, hlen, hq', hl⟩ | ⟨r', -, hq', hlt⟩
  · obtain ⟨rfl, rfl⟩ := List.append_inj (hq'.symm.trans hq) hlen
    exact ⟨r', hread, rfl, hl⟩
  · have hle : bits.length ≤ r.queue.length := by simp [hq]
    rw [hq'] at hlt
    exact absurd hle (Nat.not_le.2 hlt)

/-- A field that is read was at the front of the queue. -/
lemma queue_of_read_some {n v : Nat} {r r' : BitReader} (hn : n ≤ 20) (hr : r.live ≤ 27)
    (h : r.read n = (some v, r')) :
    ∃ bits, bits.length = n ∧ v = ofBits bits ∧ r.queue = bits ++ r'.queue ∧ r'.live ≤ 27 := by
  rcases readFrom_queue hn r.word r.live r.input hr with
      ⟨bits, r₁, hread, hlen, hq, hl⟩ | ⟨r₁, hread, -, -⟩
  · cases h.symm.trans hread
    exact ⟨bits, hlen, rfl, hq, hl⟩
  · cases h.symm.trans hread

/-- A field that cannot be read is longer than the queue, which stays as it was. -/
lemma queue_of_read_none {n : Nat} {r r' : BitReader} (hn : n ≤ 20) (hr : r.live ≤ 27)
    (h : r.read n = (none, r')) : r'.queue = r.queue ∧ r.queue.length < n ∧ r'.live ≤ 27 := by
  rcases readFrom_queue hn r.word r.live r.input hr with
      ⟨bits, r₁, hread, -, -, -⟩ | ⟨r₁, hread, hq, hlt⟩
  · cases h.symm.trans hread
  · cases h.symm.trans hread
    have hlive : r'.live ≤ r'.queue.length := by simp [queue]
    exact ⟨hq, hq ▸ hlt, by omega⟩

end BitReader

end Nsis.Bzip2
