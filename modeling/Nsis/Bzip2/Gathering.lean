import Nsis.Bzip2.CodeTable
import Nsis.Bzip2.Output

/-!
# Gathering a block

After its tables, a block is a sequence of symbols. The symbols 0 and 1 are the digits of the length
of a run of the byte at the front of the move-to-front list; the last symbol of the alphabet ends
the block; symbol `n` between them selects item `n - 1` of the list. Fifty symbols at a time share a
code table.

## Main definitions

* `Nsis.Bzip2.Plan` — what a block announces before its symbols.
* `Nsis.Bzip2.Gathering` — the block gathered so far.
* `Nsis.Bzip2.Gathering.nextCode` — choosing the table for the next symbol.
* `Nsis.Bzip2.Gathering.digit`, `flush`, `literal` — the three kinds of symbols.
* `Nsis.Bzip2.Gathering.finish` — from the gathered block to its output.
-/

namespace Nsis.Bzip2

/-- How many symbols share a code table. -/
def groupSize : Nat := 50

/-- The weight that the digits of a run's length may not reach. -/
def maxWeight : Nat := 2 * 1024 * 1024

/-- What a block announces before its symbols. -/
structure Plan where
  /-- The row of the block among its sorted rotations. -/
  origin : UInt32
  /-- The bytes that occur in the block, ascending. -/
  used : Array UInt8
  /-- The code tables. -/
  tables : Array CodeTable
  /-- Which table each group of symbols uses. -/
  selectors : Array Nat
  deriving Repr

/-- The symbol that ends a block. -/
def Plan.endSymbol (p : Plan) : Nat :=
  p.used.size + 1

/-- The block gathered so far. -/
structure Gathering where
  /-- What the block announced. -/
  plan : Plan
  /-- The table of the current group. -/
  table : CodeTable
  /-- How many groups were begun. -/
  group : Nat
  /-- How many symbols of the current group are still to come. -/
  left : Nat
  /-- One less than the length of the run, as far as its digits are known. -/
  run : Int
  /-- The weight of the run's next digit. -/
  weight : Nat
  /-- The move-to-front list. -/
  windows : Windows
  /-- How often each byte occurred. -/
  counts : Array Nat
  /-- The bytes of the last column. -/
  cells : Array Cell
  deriving Repr

namespace Gathering

/-- No symbol was gathered yet. -/
def init (plan : Plan) : Gathering where
  plan := plan
  table := ⟨0, #[], #[], #[]⟩
  group := 0
  left := 0
  run := -1
  weight := 1
  windows := .init
  counts := Array.replicate 256 0
  cells := #[]

/-- The result of a step: the gathering goes on, or fails and could be taken up from where it
failed. -/
abbrev Result := Except (Status × Gathering) Gathering

/-- Get ready for the next symbol: at the end of a group, turn to the next selector. -/
def nextCode (g : Gathering) : Result :=
  if g.left = 0 then
    match g.plan.selectors[g.group]? with
    | none => .error (.dataError, g)
    | some s =>
      match g.plan.tables[s]? with
      | none => .error (.outOfBounds, g)
      | some t => .ok { g with table := t, group := g.group + 1, left := groupSize - 1 }
  else .ok { g with left := g.left - 1 }

/-- Begin a run. -/
def beginRun (g : Gathering) : Gathering :=
  { g with run := -1, weight := 1 }

/-- Take digit `d` of a run's length. The digits count the weights 1 and 2, twice as much from one
digit to the next. -/
def digit (d : Nat) (g : Gathering) : Result :=
  if maxWeight ≤ g.weight then .error (.dataError, g)
  else .ok { g with run := g.run + (d + 1) * g.weight, weight := 2 * g.weight }

/-- Add the run of the front byte to the block. A run that does not fit fills it and fails. -/
def flush : Gathering → Result
  | ⟨plan, table, group, left, run, weight, windows, counts, cells⟩ =>
    let length := (run + 1).toNat
    match windows.front.bind fun r => plan.used[r.toNat]? with
    | none => .error (.outOfBounds, ⟨plan, table, group, left, run, weight, windows, counts, cells⟩)
    | some b =>
      let counts := counts.modify b.toNat (· + length)
      let room := maxBlock - cells.size
      let cells := cells ++ Array.replicate (min length room) (Cell.ofByte b)
      if length ≤ room then .ok ⟨plan, table, group, left, 0, weight, windows, counts, cells⟩
      else
        .error (.dataError,
          ⟨plan, table, group, left, (length - room : Nat), weight, windows, counts, cells⟩)

/-- Add item `n` of the move-to-front list to the block. -/
def literal (n : Nat) : Gathering → Result
  | ⟨plan, table, group, left, run, weight, windows, counts, cells⟩ =>
    if maxBlock ≤ cells.size then
      .error (.dataError, ⟨plan, table, group, left, run, weight, windows, counts, cells⟩)
    else
      match windows.take n with
      | none => .error (.outOfBounds, ⟨plan, table, group, left, run, weight, .init, counts, cells⟩)
      | some (r, windows) =>
        match plan.used[r.toNat]? with
        | none =>
          .error (.outOfBounds, ⟨plan, table, group, left, run, weight, windows, counts, cells⟩)
        | some b =>
          .ok ⟨plan, table, group, left, run, weight, windows, counts.modify b.toNat (· + 1),
            cells.push (Cell.ofByte b)⟩

/-- The output of a block with the given linked cells, before its first byte is read. -/
def blankOutput (cells : Array Cell) (pos : Nat) : Output where
  cells := cells
  char := 0
  pending := 0
  used := 0
  ahead := 0
  pos := pos

/-- How gathering a block ends. -/
inductive Finished where
  /-- The block is ready to be written. -/
  | ready (o : Output)
  /-- The row of the block lies outside it. -/
  | badOrigin (g : Gathering)
  /-- The block was marked as ready, and then found invalid. -/
  | late (s : Status) (o : Output)

/-- Link the cells of a block whose row is inside it, and read its first byte. -/
def link (origin : Nat) (counts : Array Nat) (cells : Array Cell) : Finished :=
  let places := starts counts
  if startsValid counts places cells.size then
    match linkCells cells places with
    | none => .late .outOfBounds (blankOutput #[] 0)
    | some cells =>
      match cells[origin]? with
      | none => .late .outOfBounds (blankOutput #[] 0)
      | some c =>
        match (blankOutput cells c.link).next with
        | .error s => .late s (blankOutput cells c.link)
        | .ok (b, o) => .ready { o with ahead := b }
  else .late .dataError (blankOutput cells 0)

/-- From the gathered block to its output. -/
def finish (g : Gathering) : Finished :=
  if g.cells.size ≤ g.plan.origin.toNat then .badOrigin g
  else link g.plan.origin.toNat g.counts g.cells

end Gathering

end Nsis.Bzip2
