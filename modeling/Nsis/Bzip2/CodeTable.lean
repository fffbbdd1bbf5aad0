/-!
# Code tables

The symbols of a block have canonical prefix codes: only the lengths of the codes are stored. The
codes of one length are consecutive numbers, in the order of their symbols, and begin where the
codes one bit shorter, with a bit appended, end.

## Main definitions

* `Nsis.Bzip2.CodeTable` — per code length the last code and the distance from codes to ranks, and
  the symbols by rank.
* `Nsis.Bzip2.CodeTable.ofLengths` — the table for given code lengths.
* `Nsis.Bzip2.CodeTable.lookup` — what a code read so far stands for.
-/

namespace Nsis.Bzip2

/-- The longest code a block may use. -/
def maxCodeLength : Nat := 20

/-- The number of code lengths a table has room for. -/
def tableLength : Nat := 23

/-- The largest number of symbols of a block: 256 bytes, one more for runs, one for the end. -/
def maxAlphabet : Nat := 258

/-- A table of canonical codes. -/
structure CodeTable where
  /-- The shortest code length. -/
  minLength : Nat
  /-- The last code of each length. -/
  limit : Array Int
  /-- What is taken from a code of each length to get the rank of its symbol. -/
  base : Array Int
  /-- The symbols by rank: by code length, then by number. -/
  perm : Array Nat
  deriving Repr

namespace CodeTable

/-- How many of the lengths are below `n`. -/
def countBelow (lengths : List Nat) (n : Nat) : Nat :=
  lengths.countP (· < n)

/-- The rank of the first symbol whose code has length `n`. A table has no room for the ranks of
longer codes: for those, only the codes one bit shorter are counted. -/
def rankStart (lengths : List Nat) (n : Nat) : Nat :=
  if n < tableLength then countBelow lengths n else lengths.count (n - 1)

/-- How many codes of length `n` there are, by the ranks at which they start and end. -/
def codesOfLength (lengths : List Nat) (n : Nat) : Int :=
  (rankStart lengths (n + 1) : Int) - rankStart lengths n

/-- One more than the last code of length `first + k`, when `first` is the shortest length. -/
def codeEnd (lengths : List Nat) (first : Nat) : (k : Nat) → Int
  | 0 => codesOfLength lengths first
  | k + 1 => 2 * codeEnd lengths first k + codesOfLength lengths (first + k + 1)

/-- The last code of length `n`; lengths outside `first … last` have the entry zero. -/
def limitFor (lengths : List Nat) (first last n : Nat) : Int :=
  if first ≤ n ∧ n ≤ last then codeEnd lengths first (n - first) - 1 else 0

/-- The distance from codes of length `n` to the ranks of their symbols. -/
def baseFor (lengths : List Nat) (first last n : Nat) : Int :=
  if first < n ∧ n ≤ last then
    2 * codeEnd lengths first (n - 1 - first) - countBelow lengths n
  else countBelow lengths n

/-- The symbols whose code has length `n`, in order. -/
def symbolsOfLength (lengths : List Nat) (n : Nat) : List Nat :=
  (lengths.zipIdx.filter fun p => p.1 = n).map (·.2)

/-- The table for the given code lengths, which lie between `first` and `last`. -/
def ofLengths (lengths : List Nat) (first last : Nat) : CodeTable where
  minLength := first
  limit := Array.ofFn fun n : Fin tableLength => limitFor lengths first last n
  base := Array.ofFn fun n : Fin tableLength => baseFor lengths first last n
  perm :=
    ((List.range (last + 1 - first)).flatMap fun k => symbolsOfLength lengths (first + k)).toArray

/-- The table for a list of code lengths. -/
def ofCode (lengths : List Nat) : CodeTable :=
  ofLengths lengths (lengths.foldl min 32) (lengths.foldl max 0)

/-- Going one length further, the codes of that length are counted as well. -/
theorem countBelow_succ (lengths : List Nat) (n : Nat) :
    countBelow lengths (n + 1) = countBelow lengths n + lengths.count n := by
  induction lengths with
  | nil => rfl
  | cons l ls ih =>
    simp only [countBelow, List.countP_cons, List.count_cons, decide_eq_true_eq, beq_iff_eq]
      at ih ⊢
    rw [ih]
    split <;> split <;> split <;> omega

/-- Within the room of a table, the ranks tell how many codes of a length there are. -/
theorem codesOfLength_eq_count (lengths : List Nat) {n : Nat} (h : n + 1 < tableLength) :
    codesOfLength lengths n = lengths.count n := by
  have hn : n < tableLength := Nat.lt_of_succ_lt h
  simp only [codesOfLength, rankStart, h, hn, if_true, countBelow_succ]
  omega

/-- What the bits read so far stand for. -/
inductive Reading where
  /-- A complete code. -/
  | symbol (s : Nat)
  /-- The beginning of a longer code. -/
  | incomplete
  /-- No code. -/
  | invalid
  /-- A code whose symbol the table does not hold. -/
  | unfilled
  deriving DecidableEq, Repr

/-- What `n` bits with the value `v` stand for. A code is complete when it does not exceed the last
code of its length. -/
def lookup (t : CodeTable) (n v : Nat) : Reading :=
  if maxCodeLength < n then .invalid
  else if (v : Int) ≤ t.limit.getD n 0 then
    let rank := (v : Int) - t.base.getD n 0
    if rank < 0 ∨ maxAlphabet ≤ rank then .invalid
    else
      match t.perm[rank.toNat]? with
      | some s => .symbol s
      | none => .unfilled
  else .incomplete

end CodeTable

end Nsis.Bzip2
