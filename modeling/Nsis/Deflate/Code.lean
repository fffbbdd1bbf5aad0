import Nsis.Deflate.Source

/-!
# Deflate codes

The codes of a deflate block are canonical prefix codes of at most fifteen bits, given by the length
of each symbol's code; length zero means that a symbol has no code.

## Main definitions

* `Nsis.Deflate.Code` — how many codes of each length there are, and the symbols in code order.
* `Nsis.Deflate.Code.slack` — how much of the code space is unused.
* `Nsis.Deflate.Code.ofLengths?` — the code with given lengths, if such a code is acceptable.
* `Nsis.Deflate.Code.symbol` — reading a symbol.
-/

namespace Nsis.Deflate

/-- The longest code. -/
def maxBits : Nat := 15

/-- A canonical prefix code. -/
structure Code where
  /-- How many codes of each length there are. -/
  counts : Array Nat
  /-- The symbols by code length, then by number. -/
  symbols : Array Nat
  deriving Repr

namespace Code

/-- The code with the given lengths, without regard to whether there is one. -/
def ofLengths (lengths : List Nat) : Code where
  counts := Array.ofFn fun n : Fin (maxBits + 1) => if n.val = 0 then 0 else lengths.count n.val
  symbols := ((List.range maxBits).flatMap fun k =>
    (lengths.zipIdx.filter fun p => p.1 = k + 1).map (·.2)).toArray

/-- How much of the space of fifteen-bit words no code takes; negative if the codes overlap. -/
def slack (c : Code) : Int :=
  (c.counts.toList.drop 1).foldl (fun (left : Int) (n : Nat) => 2 * left - n) 1

/-- The length of the longest code. -/
def longest (c : Code) : Nat :=
  (c.counts.toList.zipIdx.filter fun p => p.1 ≠ 0).foldl (fun m p => max m p.2) 0

/-- Whether the codes neither overlap nor leave space unused. -/
def isComplete (c : Code) : Bool :=
  c.slack = 0

/-- Whether a code is acceptable for literals or distances: complete, or a single code of one bit,
or no code at all. -/
def isAcceptable (c : Code) : Bool :=
  c.isComplete || (decide (0 < c.slack) && c.longest ≤ 1)

/-- Read a symbol, at most `n` bits more. So far `code` was read, the codes of this length begin at
`first`, and `rank` symbols have shorter codes. -/
def symbolFrom (c : Code) : (n length code first rank : Nat) → Source → Option (Nat × Source)
  | 0, _, _, _, _, _ => none
  | n + 1, length, code, first, rank, s =>
    match s.bit with
    | none => none
    | some (b, s) =>
      let code := 2 * code + b
      let count := c.counts.getD length 0
      if code < first + count then
        match c.symbols[rank + (code - first)]? with
        | none => none
        | some sym => some (sym, s)
      else symbolFrom c n (length + 1) code (2 * (first + count)) (rank + count) s

/-- Read a symbol. -/
def symbol (c : Code) (s : Source) : Option (Nat × Source) :=
  c.symbolFrom maxBits 1 0 0 0 s

/-- A symbol takes at least one bit, wherever its search begins. -/
theorem bits_of_symbolFrom {c : Code} {n length code first rank : Nat} {s s' : Source} {sym : Nat}
    (h : c.symbolFrom n length code first rank s = some (sym, s')) : s'.bits < s.bits := by
  induction n generalizing length code first rank s with
  | zero => simp [symbolFrom] at h
  | succ n ih =>
    simp only [symbolFrom] at h
    split at h
    · simp at h
    rename_i b s₁ h₁
    have hb := Source.bits_of_bit h₁
    split at h
    · split at h
      · simp at h
      · simp only [Option.some.injEq, Prod.mk.injEq] at h
        obtain ⟨-, rfl⟩ := h
        omega
    · have := ih h
      omega

/-- Reading a symbol uses up input. -/
theorem bits_of_symbol {c : Code} {s s' : Source} {sym : Nat} (h : c.symbol s = some (sym, s')) :
    s'.bits < s.bits :=
  bits_of_symbolFrom h

end Code

end Nsis.Deflate
