import Nsis.Bzip2.BitReader
import Nsis.Bzip2.Gathering

/-!
# The phases of reading a block

Reading a block proceeds in phases. Each phase waits for one bit field; when the field is there, it
is turned into the next phase, or reading stops. Since a phase holds all that was learnt so far,
reading can be interrupted between any two fields.

The arguments of a phase are the part of the decoder's state, `DState` with its save area, that is
live there. The variables `uc`, `minLen`, `maxLen` and `retVal` of that state are dead wherever
reading can be interrupted: each of them is set anew before it is used again. No phase has them.

## Main definitions

* `Nsis.Bzip2.Phase` — the phases.
* `Nsis.Bzip2.Phase.width` — the width of the field that a phase waits for.
* `Nsis.Bzip2.Phase.number` — the number by which a phase is known outside.
* `Nsis.Bzip2.Mode` — reading a block, writing a block, or done.
* `Nsis.Bzip2.Phase.accept` — what a phase makes of its field.
* `Nsis.Bzip2.Phase.run` — accepting fields until reading stops or the input ends.

## Main results

* `Nsis.Bzip2.Phase.bits_lt_of_run_stopped` — reading that stops has used up some input.
-/

namespace Nsis.Bzip2

/-- The byte that begins a block. -/
def blockMark : Nat := 0x31

/-- The byte that ends the data. -/
def endMark : Nat := 0x17

/-- The largest row that a block may announce before its size is known. -/
def maxOrigin : Nat := 10 + maxBlock

/-- How many selectors a block can make use of; further ones are read and dropped. -/
def maxSelectors : Nat := 2 + maxBlock / groupSize

/-- A block whose code tables are being read. -/
structure Draft where
  /-- The row of the block among its sorted rotations. -/
  origin : UInt32
  /-- The bytes that occur in the block. -/
  used : Array UInt8
  /-- How many tables there are to be. -/
  count : Nat
  /-- Which table each group of symbols uses. -/
  selectors : Array Nat
  /-- The tables that are complete. -/
  tables : Array CodeTable
  /-- The code lengths of the table that is being read. -/
  lengths : Array Nat
  deriving Repr

/-- Where a symbol stands: first in the block, after a digit of a run, or after a literal. -/
inductive Place where
  | first
  | afterDigit
  | afterLiteral
  deriving DecidableEq, Repr

/-- What is being waited for while a block is read. -/
inductive Phase where
  /-- The byte that begins a block or ends the data. -/
  | mark
  /-- A byte of the block's row, with `left` more to come. -/
  | origin (left : Nat) (value : UInt32)
  /-- Whether the next of sixteen ranges of bytes occurs. -/
  | rangeMap (origin : UInt32) (todo found : List UInt8)
  /-- Whether the next byte of a range occurs. -/
  | byteMap (origin : UInt32) (todo found : List UInt8)
  /-- The number of tables. -/
  | tableCount (origin : UInt32) (used : Array UInt8)
  /-- The number of selectors. -/
  | selectorCount (origin : UInt32) (used : Array UInt8) (count : Nat)
  /-- A bit of a selector's rank, which is written as that many ones and a zero, and kept in a
  byte. -/
  | selector (origin : UInt32) (used : Array UInt8) (count left ones : Nat) (ranks : Array Nat)
  /-- The code length to begin a table with. -/
  | firstLength (d : Draft)
  /-- Whether the code length still changes before it is the next symbol's. -/
  | lengthChanges (d : Draft) (length : Int)
  /-- Whether the code length shrinks or grows. -/
  | lengthShrinks (d : Draft) (length : Int)
  /-- A symbol's code: its shortest possible beginning, or one more bit of it. -/
  | code (place : Place) (more : Bool) (length value : Nat) (g : Gathering)
  deriving Repr

namespace Phase

/-- The width of the field that a phase waits for. A code has at least one bit. -/
def width : Phase → Nat
  | mark => 8
  | origin _ _ => 8
  | rangeMap _ _ _ => 1
  | byteMap _ _ _ => 1
  | tableCount _ _ => 3
  | selectorCount _ _ _ => 15
  | selector _ _ _ _ _ _ => 1
  | firstLength _ => 5
  | lengthChanges _ _ => 1
  | lengthShrinks _ _ => 1
  | code _ false length _ _ => max 1 length
  | code _ true _ _ _ => 1

/-- The number by which a phase is known outside. -/
def number : Phase → Nat
  | mark => 11
  | origin left _ => 15 - left
  | rangeMap _ _ _ => 16
  | byteMap _ _ _ => 17
  | tableCount _ _ => 18
  | selectorCount _ _ _ => 19
  | selector _ _ _ _ _ _ => 20
  | firstLength _ => 21
  | lengthChanges _ _ => 22
  | lengthShrinks _ _ => 23
  | code .first more _ _ _ => if more then 25 else 24
  | code .afterDigit more _ _ _ => if more then 27 else 26
  | code .afterLiteral more _ _ _ => if more then 29 else 28

/-- Every phase reads something. -/
theorem width_pos (p : Phase) : 0 < p.width := by
  cases p with
  | code place more length value g =>
    cases more with
    | false => simp only [width]; omega
    | true => simp [width]
  | _ => simp [width]

end Phase

/-- What a decoder is doing. -/
inductive Mode where
  /-- Nothing any more: the end of the data was read. -/
  | idle
  /-- Writing a block. -/
  | writing (o : Output)
  /-- Reading a block. -/
  | reading (p : Phase)
  deriving Repr

/-- The number by which a mode is known outside. -/
def Mode.number : Mode → Nat
  | idle => 1
  | writing _ => 2
  | reading p => p.number

/-- What a phase makes of its field. -/
inductive Step where
  /-- Wait for another field. -/
  | wait (p : Phase)
  /-- Stop reading. -/
  | stop (s : Status) (m : Mode)

namespace Phase

/-- Stop because of invalid data; reading could be taken up in phase `p`. -/
def fail (p : Phase) : Step :=
  .stop .dataError (.reading p)

/-- The bytes of the range `r`. -/
def bytesOfRange (r : UInt8) : List UInt8 :=
  (List.range 16).map fun j => 16 * r + UInt8.ofNat j

/-- The bytes that occur are known. If none does, the phase `retry` is where reading fails. -/
def endMap (retry : Phase) (origin : UInt32) (used : List UInt8) : Step :=
  if used.isEmpty then retry.fail else .wait (.tableCount origin used.toArray)

/-- The ranges that occur are known: ask for the bytes of each. -/
def endRanges (origin : UInt32) (ranges : List UInt8) : Step :=
  match ranges.flatMap bytesOfRange with
  | [] => (rangeMap origin [] []).fail
  | b :: bs => .wait (.byteMap origin (b :: bs) [])

/-- The tables that a list of ranks selects, when each rank moves its table to the front. -/
def undoRanks : (order : List Nat) → List Nat → Option (List Nat)
  | _, [] => some []
  | order, r :: ranks => do
    let t ← order[r]?
    let rest ← undoRanks (t :: order.eraseIdx r) ranks
    some (t :: rest)

/-- The ranks of all selectors are known. -/
def endSelectors (origin : UInt32) (used : Array UInt8) (count : Nat) (ranks : Array Nat) : Step :=
  match undoRanks (List.range count) ranks.toList with
  | none => .stop .outOfBounds .idle
  | some selectors =>
    .wait (.firstLength ⟨origin, used, count, selectors.toArray, #[], #[]⟩)

/-- Begin to wait for a symbol at `place`. If there is no group left for it, `retry` says from which
phase on reading could be taken up. -/
def awaitCode (place : Place) (retry : Gathering → Phase) (r : Gathering.Result) : Step :=
  match r.bind Gathering.nextCode with
  | .ok g => .wait (.code place false g.table.minLength 0 g)
  | .error (s, g) => .stop s (.reading (retry g))

/-- Complete the table that was being read. When it is the last one, the symbols begin. -/
def endTable (d : Draft) : Step :=
  let tables := d.tables.push (.ofCode d.lengths.toList)
  if tables.size < d.count then
    .wait (.firstLength { d with tables := tables, lengths := #[] })
  else
    awaitCode .first (.code .first false 0 0)
      (.ok (Gathering.init ⟨d.origin, d.used, tables, d.selectors⟩))

/-- Go on with a code length, which has to be in range. -/
def checkLength (retry : Phase) (d : Draft) (length : Int) : Step :=
  if length < 1 ∨ (maxCodeLength : Int) < length then retry.fail
  else .wait (.lengthChanges d length)

/-- The block is complete. -/
def endBlock (retry : Gathering → Phase) (g : Gathering) : Step :=
  match g.finish with
  | .ready o => .stop .ok (.writing o)
  | .badOrigin g => (retry g).fail
  | .late s o => .stop s (.writing o)

/-- Take a symbol that is no digit of a run. -/
def acceptOther (retry : Gathering → Phase) (sym : Nat) (g : Gathering) : Step :=
  if sym = g.plan.endSymbol then endBlock retry g
  else awaitCode .afterLiteral retry (g.literal (sym - 1))

/-- Take a symbol. After a digit, another digit continues the run and any other symbol ends it. -/
def acceptSymbol (place : Place) (retry : Gathering → Phase) (sym : Nat) (g : Gathering) : Step :=
  if place = .afterDigit then
    if sym < 2 then awaitCode .afterDigit retry (g.digit sym)
    else
      match g.flush with
      | .ok g => acceptOther retry sym g
      | .error (s, g) => .stop s (.reading (retry g))
  else if sym = g.plan.endSymbol then endBlock retry g
  else if sym < 2 then awaitCode .afterDigit retry (g.beginRun.digit sym)
  else awaitCode .afterLiteral retry (g.literal (sym - 1))

/-- Go on with a code of which `length` bits with the given value were read. -/
def acceptCode (place : Place) (more : Bool) (length value : Nat) (g : Gathering) : Step :=
  match g.table.lookup length value with
  | .symbol sym => acceptSymbol place (.code place more length value) sym g
  | .incomplete => .wait (.code place true (length + 1) value g)
  | .invalid => (code place more length value g).fail
  | .unfilled => .stop .outOfBounds .idle

/-- What a phase makes of the field it waited for. -/
def accept (p : Phase) (v : Nat) : Step :=
  match p with
  | mark =>
    if v = endMark then .stop .streamEnd .idle
    else if v = blockMark then .wait (.origin 2 0)
    else mark.fail
  | origin left value =>
    let value := (value <<< 8) ||| UInt32.ofNat v
    match left with
    | left + 1 => .wait (.origin left value)
    | 0 =>
      if maxOrigin < value.toNat then (origin 0 value).fail
      else .wait (.rangeMap value ((List.range 16).map UInt8.ofNat) [])
  | rangeMap row todo found =>
    match todo with
    | [] => (rangeMap row [] []).fail
    | r :: todo =>
      let found := if v = 1 then found ++ [r] else found
      if todo.isEmpty then endRanges row found else .wait (.rangeMap row todo found)
  | byteMap row todo found =>
    match todo with
    | [] => (byteMap row [] []).fail
    | b :: todo =>
      let found := if v = 1 then found ++ [b] else found
      if todo.isEmpty then endMap (byteMap row [] []) row found
      else .wait (.byteMap row todo found)
  | tableCount row used =>
    if v < 2 ∨ 6 < v then (tableCount row used).fail
    else .wait (.selectorCount row used v)
  | selectorCount row used count =>
    if v < 1 then (selectorCount row used count).fail
    else .wait (.selector row used count v 0 #[])
  | selector row used count left ones ranks =>
    if v = 0 then
      let ranks := if ranks.size < maxSelectors then ranks.push (ones % 256) else ranks
      if left ≤ 1 then endSelectors row used count ranks
      else .wait (.selector row used count (left - 1) 0 ranks)
    else if count ≤ ones + 1 then (selector row used count left (ones + 1) ranks).fail
    else .wait (.selector row used count left (ones + 1) ranks)
  | firstLength d => checkLength (firstLength d) d v
  | lengthChanges d length =>
    if v = 0 then
      let lengths := d.lengths.push length.toNat
      if lengths.size < d.used.size + 2 then
        .wait (.lengthChanges { d with lengths := lengths } length)
      else endTable { d with lengths := lengths }
    else .wait (.lengthShrinks d length)
  | lengthShrinks d length =>
    let length := if v = 0 then length + 1 else length - 1
    checkLength (lengthShrinks d length) d length
  | code place more length value g =>
    acceptCode place more length (if more then 2 * value + v else v) g

/-- Where reading a block got to. -/
inductive Run where
  /-- The input does not hold the next field. -/
  | starved (p : Phase) (r : BitReader)
  /-- Reading stopped. -/
  | stopped (s : Status) (m : Mode) (r : BitReader)

/-- Accept fields until reading stops or the input ends. -/
def run (p : Phase) (r : BitReader) : Run :=
  match _h : r.read p.width with
  | (none, r') => .starved p r'
  | (some v, r') =>
    match p.accept v with
    | .wait p' => run p' r'
    | .stop s m => .stopped s m r'
termination_by r.bits
decreasing_by
  have := BitReader.bits_of_read_some _h
  have := p.width_pos
  omega

/-- Reading that stops has used up some input. -/
theorem bits_lt_of_run_stopped {p : Phase} {r r' : BitReader} {s : Status} {m : Mode}
    (h : p.run r = .stopped s m r') : r'.bits < r.bits := by
  fun_induction run p r with
  | case1 p r r₁ h₁ => simp at h
  | case2 p r v r₁ h₁ p₁ hp ih =>
    have hb := BitReader.bits_of_read_some h₁
    have := ih h
    omega
  | case3 p r v r₁ h₁ s₁ m₁ hs =>
    simp only [Run.stopped.injEq] at h
    obtain ⟨-, -, rfl⟩ := h
    have hb := BitReader.bits_of_read_some h₁
    have := p.width_pos
    omega

/-- Reading that waits for more input has added none. -/
theorem bits_le_of_run_starved {p p' : Phase} {r r' : BitReader}
    (h : p.run r = .starved p' r') : r'.bits ≤ r.bits := by
  fun_induction run p r with
  | case1 p r r₁ h₁ =>
    simp only [Run.starved.injEq] at h
    obtain ⟨-, rfl⟩ := h
    exact Nat.le_of_eq (BitReader.bits_of_read_none h₁)
  | case2 p r v r₁ h₁ p₁ hp ih =>
    have hb := BitReader.bits_of_read_some h₁
    have := ih h
    omega
  | case3 p r v r₁ h₁ s₁ m₁ hs => simp at h

end Phase

end Nsis.Bzip2
