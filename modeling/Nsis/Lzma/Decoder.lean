import Nsis.Fault
import Nsis.Lzma.Properties
import Nsis.Lzma.RangeCoder

/-!
# Decoding LZMA

An LZMA stream is a sequence of packets: a literal byte, a copy at a new distance, a copy at one of
the last four distances, or a copy of a single byte at the last distance. A copy at the largest
possible distance marks the end.

## Main definitions

* `Nsis.Lzma.Machine` — the kinds of the last packets, the last four distances, and the output.
* `Nsis.Lzma.packet` — decoding a packet.
* `Nsis.Lzma.stream` — decoding a stream.
* `Nsis.Lzma.decompress` — decoding all streams of a byte string.
-/

namespace Nsis.Lzma

/-! ## Where the chances are -/

/-- Whether a packet is a copy. -/
def isCopy (state pos : Nat) : Nat := 16 * state + pos
/-- Whether a copy is at one of the last distances. -/
def isRepeat (state : Nat) : Nat := 192 + state
/-- Whether it is not the last distance. -/
def isOlder (state : Nat) : Nat := 204 + state
/-- Whether it is not the last but one. -/
def isOlder2 (state : Nat) : Nat := 216 + state
/-- Whether it is not the last but two. -/
def isOlder3 (state : Nat) : Nat := 228 + state
/-- Whether a copy at the last distance is longer than a byte. -/
def isLong (state pos : Nat) : Nat := 240 + 16 * state + pos
/-- The slot of a distance, by the length of the copy. -/
def distanceSlot (length : Nat) : Nat := 432 + 64 * min length 3
/-- The low bits of a distance in one of the slots 4 to 13. -/
def distanceBits (start slot : Nat) : Nat := 688 + start - slot
/-- The lowest four bits of a distance in a later slot. -/
def distanceAlign : Nat := 803
/-- The length of a copy at a new distance. -/
def copyLengths : Nat := 819
/-- The length of a copy at one of the last distances. -/
def repeatLengths : Nat := 1333
/-- A literal in the given context. -/
def literals (context : Nat) : Nat := 1847 + 0x300 * context

/-- How many chances there are. -/
def chanceCount (p : Properties) : Nat :=
  literals (Bits.weight (p.contextBits + p.literalBits))

/-! ## Packets -/

/-- What a packet depends on, and the output so far. -/
structure Machine where
  /-- The kinds of the last packets, as a number below 12; below 7 the last one was a literal. -/
  state : Nat := 0
  /-- The last four distances, the latest first, each less one. -/
  last : Nat × Nat × Nat × Nat := (0, 0, 0, 0)
  /-- The output. -/
  out : Array UInt8 := #[]
  deriving Repr

/-- The byte `distance + 1` before the end of the output, or zero before its start. -/
def Machine.back (m : Machine) (distance : Nat) : UInt8 :=
  if distance < m.out.size then m.out.getD (m.out.size - 1 - distance) 0 else 0

/-- The state after a literal. -/
def afterLiteral (state : Nat) : Nat :=
  if state < 4 then 0 else if state < 10 then state - 3 else state - 6

/-- The state after a packet that is no literal: one of two, by whether one came before. -/
def afterOther (state fresh again : Nat) : Nat :=
  if state < 7 then fresh else again

/-- A literal after a copy: as long as its bits agree with those of the byte after the copied ones,
that byte selects the chances. -/
def matchedLiteral (base : Nat) : (n : Nat) → (byte m : Nat) → Decode Nat
  | 0, _, m => pure m
  | n + 1, byte, m => do
    let expected := byte / Bits.weight n % 2
    let b ← bit (base + 0x100 * (1 + expected) + m)
    if b = expected then matchedLiteral base n byte (2 * m + b)
    else descend base n (2 * m + b)

/-- Decode a literal. -/
def literal (p : Properties) (m : Machine) : Decode Machine := do
  let high := m.out.size % Bits.weight p.literalBits * Bits.weight p.contextBits
  let low := (m.back 0).toNat / Bits.weight (8 - p.contextBits)
  let base := literals (high + low)
  let node ←
    if m.state < 7 then descend base 8 1
    else matchedLiteral base 8 (m.back m.last.1).toNat 1
  pure { m with state := afterLiteral m.state, out := m.out.push (UInt8.ofNat node) }

/-- Decode the length of a copy, less two. -/
def copyLength (base pos : Nat) : Decode Nat := do
  let long ← bit base
  if long = 0 then tree (base + 2 + 8 * pos) 3
  else
    let longer ← bit (base + 1)
    if longer = 0 then do
      let n ← tree (base + 130 + 8 * pos) 3
      pure (n + 8)
    else do
      let n ← tree (base + 258) 8
      pure (n + 16)

/-- Decode a distance, less one, for a copy of the given length. -/
def distance (length : Nat) : Decode Nat := do
  let slot ← tree (distanceSlot length) 6
  if slot < 4 then pure slot
  else
    let width := slot / 2 - 1
    let start := (2 + slot % 2) * Bits.weight width
    if slot < 14 then do
      let n ← reverseTree (distanceBits start slot) width
      pure (start + n)
    else do
      let high ← direct (width - 4) 0
      let low ← reverseTree distanceAlign 4
      pure (start + 16 * high + low)

/-- The distance that marks the end. -/
def endDistance : Nat := 0xffffffff

/-- Append `n` bytes, each the one `distance + 1` before it. -/
def copy (distance : Nat) : (n : Nat) → Machine → Machine
  | 0, m => m
  | n + 1, m => copy distance n { m with out := m.out.push (m.back distance) }

/-- Choose one of the last distances, which becomes the latest. -/
def repeated (state : Nat) (last : Nat × Nat × Nat × Nat) : Decode (Nat × Nat × Nat × Nat) := do
  let (d₀, d₁, d₂, d₃) := last
  if (← bit (isOlder2 state)) = 0 then pure (d₁, d₀, d₂, d₃)
  else if (← bit (isOlder3 state)) = 0 then pure (d₂, d₀, d₁, d₃)
  else pure (d₃, d₀, d₁, d₂)

/-- Decode the end of the stream: nothing may be left of the number. -/
def finish : Decode Unit := do
  normalize
  if (← get).code = 0 then pure () else throw .invalid

/-- Decode a copy at a new distance; the flag says whether it was the end. A distance may not reach
beyond the output or the dictionary. -/
def newCopy (p : Properties) (pos : Nat) (m : Machine) : Decode (Machine × Bool) := do
  let length ← copyLength copyLengths pos
  let d ← distance length
  if d = endDistance then do
    finish
    pure (m, true)
  else if d < min m.out.size p.reach then
    let (d₀, d₁, d₂, _) := m.last
    pure (copy d (length + 2)
      { m with state := afterOther m.state 7 10, last := (d, d₀, d₁, d₂) }, false)
  else throw .invalid

/-- Decode a copy at one of the last distances. There has to be some output. -/
def repeatCopy (pos : Nat) (m : Machine) : Decode Machine := do
  if m.out.isEmpty then throw .invalid
  else
    let older ← bit (isOlder m.state)
    let long ← if older = 0 then bit (isLong m.state pos) else pure 1
    if long = 0 then pure (copy m.last.1 1 { m with state := afterOther m.state 9 11 })
    else do
      let last ← if older = 0 then pure m.last else repeated m.state m.last
      let length ← copyLength repeatLengths pos
      pure (copy last.1 (length + 2) { m with state := afterOther m.state 8 11, last := last })

/-- Decode a packet; the flag says whether it was the end. -/
def packet (p : Properties) (m : Machine) : Decode (Machine × Bool) := do
  let pos := m.out.size % Bits.weight p.positionBits
  if (← bit (isCopy m.state pos)) = 0 then do
    let m ← literal p m
    pure (m, false)
  else if (← bit (isRepeat m.state)) = 0 then newCopy p pos m
  else do
    let m ← repeatCopy pos m
    pure (m, false)

/-! ## Streams -/

/-- Decode at most `n` packets. -/
def packets (p : Properties) : (n : Nat) → Machine → Decode (Array UInt8)
  | 0, _ => throw .invalid
  | n + 1, m => do
    let (m, ended) ← packet p m
    if ended then pure m.out else packets p n m

/-- A bound for the number of packets of a stream of `n` bytes. A decision shrinks the range by at
least 31 parts in 2048, so that fewer than 512 of them fit between two bytes of input. -/
def maxPackets (n : Nat) : Nat :=
  512 * (n + 1)

/-- The range decoder at the start of a stream: the first byte is zero, the next four are the
beginning of the number. -/
def start (p : Properties) (data : Bytes) : Except Halt Coder :=
  match data with
  | [] => .error .starved
  | b :: rest =>
    if b ≠ 0 then .error .invalid
    else if (rest.take 4).length < 4 then .error .starved
    else
      .ok
        { range := 0xffffffff
          code := UInt32.ofNat (Bytes.value (rest.take 4).reverse)
          input := rest.drop 4
          chances := Array.replicate (chanceCount p) evenChance }

/-- Decode a stream of at most `limit` packets: its contents, and what follows it. -/
def stream (p : Properties) (limit : Nat) (data : Bytes) : Except Halt (Array UInt8 × Bytes) :=
  match start p data with
  | .error e => .error e
  | .ok c =>
    match packets p limit {} c with
    | .ok out c => .ok (out, c.input)
    | .error e _ => .error e

/-- Decode the first stream of a byte string and, one after the other, those that follow it, of at
most `n` in all and with at most `limit` packets each. The first one has to be valid; a later one
that is invalid is not looked at, and no stream may end early. -/
def streams (p : Properties) (limit : Nat) :
    (n : Nat) → (first : Bool) → Bytes → Option (List (Array UInt8))
  | 0, _, _ => some []
  | n + 1, first, data =>
    match stream p limit data with
    | .error .starved => none
    | .error .invalid => if first then none else some []
    | .ok (out, []) => some [out]
    | .ok (out, b :: rest) => (streams p limit n false (b :: rest)).map (out :: ·)

/-- Decode a byte string that begins with its properties. -/
def decompress (data : Bytes) : Except Fault Bytes :=
  match Properties.ofBytes? data with
  | none => .error .badLzma
  | some p =>
    match streams p (maxPackets data.length) data.length true (data.drop 5) with
    | none => .error .badLzma
    | some outs => .ok (outs.flatMap Array.toList)

end Nsis.Lzma
