/-!
# Bits of integers

Integers carry flags in their bits. A negative integer has infinitely many bits set, as in two's
complement.

## Main definitions

* `Nsis.Bits.weight` — the value of a bit.
* `Nsis.Bits.isSet` — whether a bit is set.
* `Nsis.Bits.set` — setting a bit.
* `Nsis.Bits.complement` — the opposite of each bit.
* `Nsis.Bits.both`, `Nsis.Bits.either`, `Nsis.Bits.oneOf` — the bits that two integers have in
  common, that at least one of them has, and that exactly one of them has.

## Main results

* `Nsis.Bits.isSet_set_self` — a bit that was set is set.
-/

namespace Nsis.Bits

/-- The value of bit `k`, which is also how many numbers there are of `k` bits. -/
def weight (k : Nat) : Nat := Nat.pow 2 k

/-- Weights are positive. -/
theorem weight_pos (k : Nat) : 0 < weight k := Nat.pow_pos (by decide)

/-- Each weight is twice the one before. -/
theorem weight_succ (k : Nat) : weight (k + 1) = weight k * 2 := rfl

/-- Whether bit `k` of `n` is set. -/
def isSet (n : Int) (k : Nat) : Bool :=
  n / weight k % 2 = 1

/-- `n` with bit `k` set. -/
def set (n : Int) (k : Nat) : Int :=
  if isSet n k then n else n + weight k

/-- The opposite of each bit. -/
def complement (n : Int) : Int :=
  -n - 1

/-- The bits that are set in both integers. What a natural number has in common with a complement is
what is left of it without the bits of the other. -/
def both : Int → Int → Int
  | .ofNat m, .ofNat n => Nat.land m n
  | .ofNat m, .negSucc n => (m : Int) - Nat.land m n
  | .negSucc m, .ofNat n => (n : Int) - Nat.land m n
  | .negSucc m, .negSucc n => complement (Nat.lor m n)

/-- The bits that are set in at least one of two integers. -/
def either (m n : Int) : Int :=
  complement (both (complement m) (complement n))

/-- The bits that are set in exactly one of two integers. -/
def oneOf (m n : Int) : Int :=
  either m n - both m n

/-- A bit that was set is set. -/
theorem isSet_set_self (n : Int) (k : Nat) : isSet (set n k) k = true := by
  unfold set
  split
  · assumption
  · rename_i h
    simp only [isSet, decide_eq_true_eq] at h ⊢
    have hk : (weight k : Int) ≠ 0 := by
      have := weight_pos k
      omega
    have hdiv : (n + weight k) / weight k = n / weight k + 1 := by
      rw [Int.add_ediv_of_dvd_right (Int.dvd_refl _), Int.ediv_self hk]
    rw [hdiv]
    omega

end Nsis.Bits
