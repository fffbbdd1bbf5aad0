import Nsis.Bytes

/-!
# Reading deflate streams bit by bit

A deflate stream fills its bytes from the least significant bit on, and its numbers are stored with
the least significant bit first.

## Main definitions

* `Nsis.Deflate.Source` — what is left of the current byte, and the bytes after it.
* `Nsis.Deflate.Source.bit`, `Nsis.Deflate.Source.number` — the next bit, the next number.
* `Nsis.Deflate.Source.align` — skip what is left of the current byte.
-/

namespace Nsis.Deflate

/-- What is left of a stream: the `live` lowest bits of `byte`, then the input. -/
structure Source where
  byte : UInt8 := 0
  live : Nat := 0
  input : Bytes
  deriving Repr

namespace Source

/-- How many bits are left. -/
def bits (s : Source) : Nat :=
  s.live + 8 * s.input.length

/-- The next bit. -/
def bit : Source → Option (Nat × Source)
  | ⟨byte, live + 1, input⟩ => some ((byte &&& 1).toNat, ⟨byte >>> 1, live, input⟩)
  | ⟨_, 0, b :: input⟩ => some ((b &&& 1).toNat, ⟨b >>> 1, 7, input⟩)
  | ⟨_, 0, []⟩ => none

/-- The next number of `n` bits. -/
def number : (n : Nat) → Source → Option (Nat × Source)
  | 0, s => some (0, s)
  | n + 1, s =>
    match s.bit with
    | none => none
    | some (b, s) =>
      match number n s with
      | none => none
      | some (v, s) => some (b + 2 * v, s)

/-- Skip what is left of the current byte. -/
def align (s : Source) : Source :=
  { input := s.input }

/-- Reading a bit leaves one bit less. -/
theorem bits_of_bit {s s' : Source} {b : Nat} (h : s.bit = some (b, s')) :
    s'.bits + 1 = s.bits := by
  unfold bit at h
  split at h
  · simp only [Option.some.injEq, Prod.mk.injEq] at h
    obtain ⟨-, rfl⟩ := h
    simp only [bits]
    omega
  · simp only [Option.some.injEq, Prod.mk.injEq] at h
    obtain ⟨-, rfl⟩ := h
    simp only [bits, List.length_cons]
    omega
  · simp at h

/-- Reading a number leaves as many bits less as it is wide. -/
theorem bits_of_number {n : Nat} {s s' : Source} {v : Nat} (h : s.number n = some (v, s')) :
    s'.bits + n = s.bits := by
  induction n generalizing s v s' with
  | zero =>
    simp only [number, Option.some.injEq, Prod.mk.injEq] at h
    obtain ⟨-, rfl⟩ := h
    rfl
  | succ n ih =>
    simp only [number] at h
    split at h
    · simp at h
    rename_i b s₁ h₁
    split at h
    · simp at h
    rename_i v₂ s₂ h₂
    simp only [Option.some.injEq, Prod.mk.injEq] at h
    obtain ⟨-, rfl⟩ := h
    have := bits_of_bit h₁
    have := ih h₂
    omega

/-- Going on to the next byte leaves no more bits than there were. -/
theorem bits_align_le (s : Source) : s.align.bits ≤ s.bits := by
  simp only [align, bits]
  omega

end Source

end Nsis.Deflate
