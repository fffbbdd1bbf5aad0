import Nsis.Checksum
import Nsis.Deflate.Compress

/-!
# Envelopes of deflated data

Deflated data stand alone, or in an envelope: a head that says how they were made, and a checksum of
what they stand for.

## Main definitions

* `Nsis.Deflate.Envelope` — what is around deflated data.
* `Nsis.Deflate.Envelope.opened?` — the contents of an envelope, and what follows it.
* `Nsis.Deflate.Envelope.sealed` — deflated data in an envelope.
-/

namespace Nsis.Deflate

/-- What is around deflated data. -/
inductive Envelope where
  | bare
  /-- A head of two bytes, and the checksum from sums. -/
  | summed
  /-- A head of ten bytes or more, the cyclic checksum, and the length. -/
  | measured
  /-- One of the two with a checksum, as the head says. -/
  | either
  deriving DecidableEq, Repr

namespace Envelope

/-- The envelope and the size of the window that a number asks for in order to read data; a size of
zero is that of the head. -/
def forReading? (n : Int) : Option (Envelope × Nat) :=
  if -15 ≤ n && n ≤ -8 then some (bare, n.natAbs)
  else if n = 0 || (8 ≤ n && n ≤ 15) then some (summed, n.toNat)
  else if 24 ≤ n && n ≤ 31 then some (measured, n.toNat - 16)
  else if 40 ≤ n && n ≤ 47 then some (either, n.toNat - 32)
  else none

/-- The envelope and the size of the window that a number asks for in order to write data. -/
def forWriting? (n : Int) : Option (Envelope × Nat) :=
  if -15 ≤ n && n ≤ -9 then some (bare, n.natAbs)
  else if 8 ≤ n && n ≤ 15 then some (summed, max 9 n.toNat)
  else if 25 ≤ n && n ≤ 31 then some (measured, n.toNat - 16)
  else none

/-- A text that ends with a zero byte is skipped. -/
def pastText (b : Bytes) : Bytes :=
  (b.dropWhile (· ≠ 0)).drop 1

/-- What follows the head of an envelope with a length. -/
def pastMeasuredHead? (b : Bytes) : Option Bytes :=
  match b with
  | 0x1f :: 0x8b :: 8 :: flags :: rest =>
    let has := fun (bit : UInt8) => flags &&& bit ≠ 0
    let rest := rest.drop 6
    let rest := if has 4 then rest.drop (2 + Bytes.value (rest.take 2)) else rest
    let rest := if has 8 then pastText rest else rest
    let rest := if has 16 then pastText rest else rest
    some (if has 2 then rest.drop 2 else rest)
  | _ => none

/-- What follows the head of an envelope with a checksum from sums. -/
def pastSummedHead? (bits : Nat) (b : Bytes) : Option Bytes :=
  match b with
  | method :: flags :: rest =>
    let isWhole := (method.toNat * 0x100 + flags.toNat) % 31 = 0
    let isNear := bits = 0 || method.toNat / 16 + 8 ≤ bits
    if isWhole && method &&& 15 = 8 && method.toNat / 16 ≤ 7 && isNear && flags &&& 32 = 0 then
      some rest
    else none
  | _ => none

/-- The contents of an envelope for a size of the window, and what follows it. -/
def opened? (e : Envelope) (bits : Nat) (b : Bytes) : Option (Bytes × Bytes) := do
  let e := if e = either then if b.take 2 = [0x1f, 0x8b] then measured else summed else e
  let data ← match e with
    | bare => some b
    | measured => pastMeasuredHead? b
    | _ => pastSummedHead? bits b
  let (s, out) ← blocks { input := data } #[]
  let (out, rest) := (out.toList, s.align.input)
  match e with
  | bare => some (out, rest)
  | measured =>
    let isSame := Bytes.value (rest.take 4) = (Checksum.cyclic 0 out).toNat
      && Bytes.value ((rest.drop 4).take 4) = out.length % 0x100000000 && 8 ≤ rest.length
    if isSame then some (out, rest.drop 8) else none
  | _ =>
    if rest.length < 4 || Bytes.value (rest.take 4).reverse ≠ Checksum.sums 1 out then none
    else some (out, rest.drop 4)

/-- The head of an envelope for a level and a size of the window. -/
def head (e : Envelope) (level bits : Nat) : Bytes :=
  match e with
  | bare => []
  | measured =>
    [0x1f, 0x8b, 8, 0, 0, 0, 0, 0, if level = 9 then 2 else if level < 2 then 4 else 0, 3]
  | _ =>
    let grade := if level < 2 then 0 else if level < 6 then 1 else if level = 6 then 2 else 3
    let n := ((bits - 8) * 16 + 8) * 0x100 + grade * 0x40
    (Bytes.ofValue 2 (n + (31 - n % 31))).reverse

/-- What follows deflated data in an envelope. -/
def tail (e : Envelope) (data : Bytes) : Bytes :=
  match e with
  | bare => []
  | measured => Bytes.ofValue 4 (Checksum.cyclic 0 data).toNat ++ Bytes.ofValue 4 data.length
  | _ => (Bytes.ofValue 4 (Checksum.sums 1 data)).reverse

/-- A byte string deflated in an envelope. -/
def sealed (e : Envelope) (level bits : Nat) (data : Bytes) : Bytes :=
  e.head level bits ++ deflate level bits data ++ e.tail data

end Envelope

end Nsis.Deflate
