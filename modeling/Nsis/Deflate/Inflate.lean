import Nsis.Deflate.Code
import Nsis.Fault

/-!
# Inflating

A deflate stream is a sequence of blocks, each of which is stored as it is or coded with fixed or
with its own codes. Coded blocks consist of literal bytes and of copies of earlier output.

## Main definitions

* `Nsis.Deflate.fixedLiterals`, `Nsis.Deflate.fixedDistances` — the fixed codes.
* `Nsis.Deflate.readCodes` — the codes at the start of a block that brings its own.
* `Nsis.Deflate.coded`, `Nsis.Deflate.stored` — the contents of a block.
* `Nsis.Deflate.inflate` — the contents of a stream.
-/

namespace Nsis.Deflate

/-- The lengths that the symbols from 257 on stand for, each with its number of extra bits. -/
def lengthTable : Array (Nat × Nat) := #[
  (3, 0), (4, 0), (5, 0), (6, 0), (7, 0), (8, 0), (9, 0), (10, 0), (11, 1), (13, 1), (15, 1),
  (17, 1), (19, 2), (23, 2), (27, 2), (31, 2), (35, 3), (43, 3), (51, 3), (59, 3), (67, 4), (83, 4),
  (99, 4), (115, 4), (131, 5), (163, 5), (195, 5), (227, 5), (258, 0)]

/-- The distances that the distance symbols stand for, each with its number of extra bits. -/
def distanceTable : Array (Nat × Nat) := #[
  (1, 0), (2, 0), (3, 0), (4, 0), (5, 1), (7, 1), (9, 2), (13, 2), (17, 3), (25, 3), (33, 4),
  (49, 4), (65, 5), (97, 5), (129, 6), (193, 6), (257, 7), (385, 7), (513, 8), (769, 8), (1025, 9),
  (1537, 9), (2049, 10), (3073, 10), (4097, 11), (6145, 11), (8193, 12), (12289, 12), (16385, 13),
  (24577, 13)]

/-- The fixed code for literals and lengths. -/
def fixedLiterals : Code :=
  .ofLengths (List.replicate 144 8 ++ List.replicate 112 9 ++ List.replicate 24 7
    ++ List.replicate 8 8)

/-- The fixed code for distances. -/
def fixedDistances : Code :=
  .ofLengths (List.replicate 32 5)

/-- The order in which the lengths of the code for code lengths are stored. -/
def lengthOrder : List Nat :=
  [16, 17, 18, 0, 8, 7, 9, 6, 10, 5, 11, 4, 12, 3, 13, 2, 14, 1, 15]

/-- Read `n` numbers of `width` bits. -/
def numbers (width : Nat) : (n : Nat) → Source → Option (List Nat × Source)
  | 0, s => some ([], s)
  | n + 1, s => do
    let (v, s) ← s.number width
    let (vs, s) ← numbers width n s
    some (v :: vs, s)

/-- How a symbol of the code for code lengths continues the list: the length to repeat, how often at
least, and with how many extra bits. -/
def repeatOf (sym : Nat) (lengths : Array Nat) : Option (Nat × Nat × Nat) :=
  match sym with
  | 16 => lengths.back?.map fun last => (last, 3, 2)
  | 17 => some (0, 3, 3)
  | 18 => some (0, 11, 7)
  | n => some (n, 1, 0)

/-- Read code lengths until there are `total` of them. A repetition may not go beyond the end. -/
def readLengths (c : Code) (total : Nat) (lengths : Array Nat) (s : Source) :
    Option (Array Nat × Source) :=
  if total ≤ lengths.size then some (lengths, s)
  else
    match _h : c.symbol s with
    | none => none
    | some (sym, s₁) =>
      match repeatOf sym lengths with
      | none => none
      | some (length, least, extra) =>
        match _h₂ : s₁.number extra with
        | none => none
        | some (more, s₂) =>
          if total < lengths.size + least + more then none
          else readLengths c total (lengths ++ Array.replicate (least + more) length) s₂
termination_by s.bits
decreasing_by
  have := Code.bits_of_symbol _h
  have := Source.bits_of_number _h₂
  omega

/-- The code for code lengths, from the lengths that a block stores for it. It has to be complete,
and to code the lengths of at most 286 literal and length symbols and 30 distance symbols. -/
def lengthCode? (literals distances : Nat) (stored : List Nat) : Option Code :=
  let pairs := lengthOrder.zip stored
  let code := Code.ofLengths ((List.range 19).map fun i => (pairs.lookup i).getD 0)
  if literals ≤ 286 && distances ≤ 30 && code.isComplete then some code else none

/-- The codes for literals and for distances, from the lengths of both. There has to be a code for
the end of the block. -/
def blockCodes? (lengths : List Nat) (literals : Nat) : Option (Code × Code) :=
  let lit := Code.ofLengths (lengths.take literals)
  let dist := Code.ofLengths (lengths.drop literals)
  if lengths.getD 256 0 ≠ 0 && lit.isAcceptable && dist.isAcceptable then some (lit, dist) else none

/-- Read the codes of a block that brings its own. -/
def readCodes (s : Source) : Option (Code × Code × Source) := do
  let (nlit, s) ← s.number 5
  let (ndist, s) ← s.number 5
  let (nlen, s) ← s.number 4
  let (ls, s) ← numbers 3 (nlen + 4) s
  let lengthCode ← lengthCode? (nlit + 257) (ndist + 1) ls
  let (lengths, s) ← readLengths lengthCode (nlit + 257 + (ndist + 1)) #[] s
  let (lit, dist) ← blockCodes? lengths.toList (nlit + 257)
  some (lit, dist, s)

/-- The symbol that ends a block. The symbols below it are literals, those above it begin a copy. -/
def endOfBlock : Nat := 256

/-- Append `n` bytes, each the one `distance` before it. -/
def copyBack (distance : Nat) : (n : Nat) → Array UInt8 → Option (Array UInt8)
  | 0, out => some out
  | n + 1, out =>
    match out[out.size - distance]? with
    | none => none
    | some b => copyBack distance n (out.push b)

/-- The least length and the number of extra bits of a copy that begins with symbol `sym`. -/
def lengthEntry? (sym : Nat) : Option (Nat × Nat) :=
  if endOfBlock < sym then lengthTable[sym - (endOfBlock + 1)]? else none

/-- Read the rest of a copy that begins with symbol `sym`: its length and its distance. -/
def readCopy (dist : Code) (sym : Nat) (s : Source) : Option (Nat × Nat × Source) :=
  match lengthEntry? sym with
  | none => none
  | some (length, extra) =>
    match s.number extra with
    | none => none
    | some (more, s) =>
      match dist.symbol s with
      | none => none
      | some (dsym, s) =>
        match distanceTable[dsym]? with
        | none => none
        | some (distance, dextra) =>
          match s.number dextra with
          | none => none
          | some (dmore, s) => some (length + more, distance + dmore, s)

/-- A copy takes at least one bit, for its distance. -/
theorem bits_of_readCopy {dist : Code} {sym : Nat} {s s' : Source} {l d : Nat}
    (h : readCopy dist sym s = some (l, d, s')) : s'.bits < s.bits := by
  unfold readCopy at h
  split at h
  · simp at h
  split at h
  · simp at h
  rename_i h₁
  split at h
  · simp at h
  rename_i h₂
  split at h
  · simp at h
  split at h
  · simp at h
  rename_i h₃
  simp only [Option.some.injEq, Prod.mk.injEq] at h
  obtain ⟨-, -, rfl⟩ := h
  have := Source.bits_of_number h₁
  have := Code.bits_of_symbol h₂
  have := Source.bits_of_number h₃
  omega

/-- The contents of a coded block, behind the output before it. -/
def coded (lit dist : Code) (s : Source) (out : Array UInt8) : Option (Source × Array UInt8) :=
  match _h : lit.symbol s with
  | none => none
  | some (sym, s₁) =>
    if sym < endOfBlock then coded lit dist s₁ (out.push (UInt8.ofNat sym))
    else if sym = endOfBlock then some (s₁, out)
    else
      match _h₂ : readCopy dist sym s₁ with
      | none => none
      | some (length, distance, s₂) =>
        if out.size < distance then none
        else
          match copyBack distance length out with
          | none => none
          | some out => coded lit dist s₂ out
termination_by s.bits
decreasing_by
  · exact Code.bits_of_symbol _h
  · have := Code.bits_of_symbol _h
    have := bits_of_readCopy _h₂
    omega

/-- The contents of a stored block: a length, its complement, and that many bytes. -/
def stored (s : Source) (out : Array UInt8) : Option (Source × Array UInt8) :=
  match s.align.number 16 with
  | none => none
  | some (length, s) =>
    match s.number 16 with
    | none => none
    | some (check, s) =>
      let bytes := s.input.take length
      if length + check ≠ 0xffff ∨ bytes.length < length then none
      else some ({ input := s.input.drop length }, out ++ bytes.toArray)

/-- The contents of a block of the given kind, behind the output before it. -/
def contents (kind : Nat) (s : Source) (out : Array UInt8) : Option (Source × Array UInt8) :=
  match kind with
  | 0 => stored s out
  | 1 => coded fixedLiterals fixedDistances s out
  | 2 =>
    match readCodes s with
    | none => none
    | some (lit, dist, s) => coded lit dist s out
  | _ => none

/-! ### Reading uses up input -/

/-- Reading numbers leaves no more bits than there were. -/
theorem bits_of_numbers {width n : Nat} {s s' : Source} {vs : List Nat}
    (h : numbers width n s = some (vs, s')) : s'.bits ≤ s.bits := by
  induction n generalizing s vs with
  | zero =>
    simp only [numbers, Option.some.injEq, Prod.mk.injEq] at h
    obtain ⟨-, rfl⟩ := h
    exact Nat.le_refl _
  | succ n ih =>
    simp only [numbers, Option.bind_eq_bind, Option.bind_eq_some_iff, Prod.exists,
      Option.some.injEq, Prod.mk.injEq] at h
    obtain ⟨v, s₁, h₁, ws, s₂, h₂, -, rfl⟩ := h
    have := Source.bits_of_number h₁
    have := ih h₂
    omega

/-- Reading code lengths leaves no more bits than there were. -/
theorem bits_of_readLengths {c : Code} {total : Nat} {lengths lengths' : Array Nat} {s s' : Source}
    (h : readLengths c total lengths s = some (lengths', s')) : s'.bits ≤ s.bits := by
  fun_induction readLengths c total lengths s with
  | case1 lengths s hle =>
    simp only [Option.some.injEq, Prod.mk.injEq] at h
    obtain ⟨-, rfl⟩ := h
    exact Nat.le_refl _
  | case6 lengths s hlt sym s₁ h₁ length least extra hr more s₂ h₂ hfit ih =>
    have := Code.bits_of_symbol h₁
    have := Source.bits_of_number h₂
    have := ih h
    omega
  | _ => simp at h

/-- Reading the codes of a block leaves no more bits than there were. -/
theorem bits_of_readCodes {s s' : Source} {lit dist : Code}
    (h : readCodes s = some (lit, dist, s')) : s'.bits ≤ s.bits := by
  simp only [readCodes, Option.bind_eq_bind, Option.bind_eq_some_iff, Prod.exists,
    Option.some.injEq, Prod.mk.injEq] at h
  obtain ⟨a, s₁, h₁, b, s₂, h₂, c, s₃, h₃, ls, s₄, h₄, code, -, ms, s₅, h₅, l, d, -, -, -, rfl⟩ := h
  have := Source.bits_of_number h₁
  have := Source.bits_of_number h₂
  have := Source.bits_of_number h₃
  have := bits_of_numbers h₄
  have := bits_of_readLengths h₅
  omega

/-- A coded block leaves no more bits than there were. -/
theorem bits_of_coded {lit dist : Code} {s s' : Source} {out out' : Array UInt8}
    (h : coded lit dist s out = some (s', out')) : s'.bits ≤ s.bits := by
  fun_induction coded lit dist s out with
  | case2 s out sym s₁ h₁ hlit ih =>
    have := Code.bits_of_symbol h₁
    have := ih h
    omega
  | case3 s out s₁ h₁ =>
    simp only [Option.some.injEq, Prod.mk.injEq] at h
    obtain ⟨rfl, -⟩ := h
    exact Nat.le_of_lt (Code.bits_of_symbol h₁)
  | case7 s out sym s₁ h₁ hlit hend length distance s₂ h₂ hfar out₁ hcopy ih =>
    have := Code.bits_of_symbol h₁
    have := bits_of_readCopy h₂
    have := ih h
    omega
  | _ => simp at h

/-- A stored block leaves no more bits than there were. -/
theorem bits_of_stored {s s' : Source} {out out' : Array UInt8}
    (h : stored s out = some (s', out')) : s'.bits ≤ s.bits := by
  unfold stored at h
  split at h
  · simp at h
  rename_i h₁
  split at h
  · simp at h
  rename_i h₂
  dsimp only at h
  split at h
  · simp at h
  simp only [Option.some.injEq, Prod.mk.injEq] at h
  obtain ⟨rfl, -⟩ := h
  have := Source.bits_of_number h₁
  have := Source.bits_of_number h₂
  have := s.bits_align_le
  simp only [Source.bits, List.length_drop] at *
  omega

/-- The contents of a block, of whatever kind, leave no more bits than there were. -/
theorem bits_of_contents {kind : Nat} {s s' : Source} {out out' : Array UInt8}
    (h : contents kind s out = some (s', out')) : s'.bits ≤ s.bits := by
  unfold contents at h
  split at h
  · exact bits_of_stored h
  · exact bits_of_coded h
  · split at h
    · simp at h
    · rename_i h₁
      exact Nat.le_trans (bits_of_coded h) (bits_of_readCodes h₁)
  · simp at h

/-! ### Streams -/

/-- The contents of the blocks of a stream, behind the output before them, and what follows the last
block. -/
def blocks (s : Source) (out : Array UInt8) : Option (Source × Array UInt8) :=
  match _h₁ : s.number 1 with
  | none => none
  | some (final, s₁) =>
    match _h₂ : s₁.number 2 with
    | none => none
    | some (kind, s₂) =>
      match _h₃ : contents kind s₂ out with
      | none => none
      | some (s₃, out) => if final = 1 then some (s₃, out) else blocks s₃ out
termination_by s.bits
decreasing_by
  have := Source.bits_of_number _h₁
  have := Source.bits_of_number _h₂
  have := bits_of_contents _h₃
  omega

/-- Inflate a byte string. What follows the last block is not looked at. -/
def inflate (data : Bytes) : Except Fault Bytes :=
  match blocks { input := data } #[] with
  | some (_, out) => .ok out.toList
  | none => .error .badDeflate

end Nsis.Deflate
