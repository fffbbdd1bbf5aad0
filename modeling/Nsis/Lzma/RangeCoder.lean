import Nsis.Bits
import Nsis.Bytes

/-!
# The range decoder

An LZMA stream is one long number in a mixed radix: each binary decision takes a part of the current
range that corresponds to its probability. The probabilities adapt to the decisions.

## Main definitions

* `Nsis.Lzma.Halt` — why decoding cannot go on.
* `Nsis.Lzma.Coder` — the range, the number inside it, the input and the probabilities.
* `Nsis.Lzma.Decode` — computations that decode.
* `Nsis.Lzma.bit`, `Nsis.Lzma.direct` — a decision with and without a probability.
* `Nsis.Lzma.tree`, `Nsis.Lzma.reverseTree` — a number from decisions, highest or lowest bit first.
-/

namespace Nsis.Lzma

/-- Why decoding cannot go on. -/
inductive Halt where
  /-- The input ends. -/
  | starved
  /-- The stream is invalid. -/
  | invalid
  deriving DecidableEq, Repr

/-- The state of the range decoder. A probability is the chance of a zero in 2048 parts. -/
structure Coder where
  range : UInt32
  code : UInt32
  input : Bytes
  chances : Array UInt32
  deriving Repr

/-- Computations that decode. -/
abbrev Decode := EStateM Halt Coder

/-- The chance of a zero before anything is known. -/
def evenChance : UInt32 := 1024

/-- Widen the range by a byte of input when it has become small. -/
def normalize : Decode Unit := fun c =>
  if c.range < 0x1000000 then
    match c.input with
    | [] => .error .starved c
    | b :: rest =>
      .ok () { c with range := c.range <<< 8, code := (c.code <<< 8) ||| b.toUInt32, input := rest }
  else .ok () c

/-- Decide between the two parts of the range, and adapt the chance. -/
def decideBit (i : Nat) : Decode Nat := fun ⟨range, code, input, chances⟩ =>
  let p := chances.getD i evenChance
  let bound := (range >>> 11) * p
  if code < bound then
    .ok 0 ⟨bound, code, input, chances.setIfInBounds i (p + ((2048 - p) >>> 5))⟩
  else
    .ok 1 ⟨range - bound, code - bound, input, chances.setIfInBounds i (p - (p >>> 5))⟩

/-- A decision with the chance number `i`. -/
def bit (i : Nat) : Decode Nat := do
  normalize
  decideBit i

/-- A decision with an even chance that does not adapt. -/
def directBit : Decode Nat := do
  normalize
  fun c =>
    let half := c.range >>> 1
    if c.code < half then .ok 0 { c with range := half }
    else .ok 1 { c with range := half, code := c.code - half }

/-- A number of `n` decisions with even chances, behind the bits `v`. -/
def direct : (n : Nat) → (v : Nat) → Decode Nat
  | 0, v => pure v
  | n + 1, v => do
    let b ← directBit
    direct n (2 * v + b)

/-- Go down `n` levels of a tree of decisions from node `m`, which uses the chance `base + m`. -/
def descend (base : Nat) : (n : Nat) → (m : Nat) → Decode Nat
  | 0, m => pure m
  | n + 1, m => do
    let b ← bit (base + m)
    descend base n (2 * m + b)

/-- A number of `n` bits, highest bit first. -/
def tree (base n : Nat) : Decode Nat := do
  let m ← descend base n 1
  pure (m - Bits.weight n)

/-- The value of `n` decisions from node `m` on, lowest bit first. -/
def reverseDescend (base : Nat) : (n : Nat) → (m : Nat) → Decode Nat
  | 0, _ => pure 0
  | n + 1, m => do
    let b ← bit (base + m)
    let v ← reverseDescend base n (2 * m + b)
    pure (b + 2 * v)

/-- A number of `n` bits, lowest bit first. -/
def reverseTree (base n : Nat) : Decode Nat :=
  reverseDescend base n 1

end Nsis.Lzma
