import Mathlib.Data.List.Basic
import Mathlib.Tactic.SplitIfs
import Nsis.Bzip2.Stream
import Nsis.Proofs.Bzip2.Ticks

/-!
# Decoding, one iteration at a time

Decoding is a loop of calls. A call is a loop over fields and runs; a field is a loop over the bytes
that are fetched for it, and the last fields of a run and of a block are loops over cells. The
machine of this module makes one iteration of one of these loops in each of its steps. What a field
does apart from that takes a number of operations that is bounded once and for all, and is one step.

## Main definitions

* `Nsis.Bzip2.Task` — what a field has started, and `Nsis.Bzip2.Task.result` what comes of it.
* `Nsis.Bzip2.Machine` — decoding, with all that is going on at a time.
* `Nsis.Bzip2.Machine.step`, `Nsis.Bzip2.Machine.run` — one iteration, and some of them.
* `Nsis.Bzip2.Machine.answer` — what is decoded in the end.

## Main results

* `Nsis.Bzip2.Task.result_ofField` — a field comes to what its phase makes of it.
* `Nsis.Bzip2.Machine.answer_step` — a step does not change what is decoded in the end.
-/

namespace Nsis.Bzip2

/-! ## Runs -/

namespace Gathering

/-- The byte at the front of the move-to-front list. -/
def front (g : Gathering) : Option UInt8 :=
  g.windows.front.bind fun r => g.plan.used[r.toNat]?

/-- Add `n` copies of a byte to the block, as far as it has room for them. -/
def fill (n : Nat) (b : UInt8) (g : Gathering) : Result :=
  let room := maxBlock - g.cells.size
  let cells := g.cells ++ Array.replicate (min n room) (Cell.ofByte b)
  if n ≤ room then .ok { g with run := 0, cells := cells }
  else .error (.dataError, { g with run := (n - room : Nat), cells := cells })

/-- A gathering whose front byte is counted for the whole of the run. -/
def countRun (b : UInt8) (g : Gathering) : Gathering :=
  { g with counts := g.counts.modify b.toNat (· + (g.run + 1).toNat) }

/-- The copies of a run are put into the block one by one, once they are counted. -/
lemma flush_eq_fill (g : Gathering) :
    g.flush =
      match g.front with
      | none => .error (.outOfBounds, g)
      | some b => (g.countRun b).fill (g.run + 1).toNat b := by
  obtain ⟨plan, table, group, left, run, weight, windows, counts, cells⟩ := g
  simp only [flush, front]
  cases windows.front.bind fun r => plan.used[r.toNat]? <;> rfl

/-- Nothing is left to put into the block. -/
lemma fill_zero (b : UInt8) (g : Gathering) : g.fill 0 b = .ok { g with run := 0 } := by
  simp [fill]

/-- A full block takes no further copy. -/
lemma fill_of_full {g : Gathering} (h : maxBlock ≤ g.cells.size) (n : Nat) (b : UInt8) :
    g.fill (n + 1) b = .error (.dataError, { g with run := (n + 1 : Nat) }) := by
  have hroom : maxBlock - g.cells.size = 0 := Nat.sub_eq_zero_of_le h
  simp [fill, hroom]

/-- A block that is not full takes a further copy. -/
lemma fill_succ {g : Gathering} (h : g.cells.size < maxBlock) (n : Nat) (b : UInt8) :
    g.fill (n + 1) b = { g with cells := g.cells.push (Cell.ofByte b) }.fill n b := by
  have hroom : maxBlock - g.cells.size = maxBlock - (g.cells.size + 1) + 1 := by omega
  have hcells : ∀ k, g.cells ++ Array.replicate (k + 1) (Cell.ofByte b) =
      g.cells.push (Cell.ofByte b) ++ Array.replicate k (Cell.ofByte b) := by
    intro k
    apply Array.toList_inj.1
    simp [List.replicate_succ]
  simp only [fill, Array.size_push, hroom, Nat.add_min_add_right, hcells, Nat.add_le_add_iff_right,
    Nat.add_sub_add_right]

end Gathering

/-! ## Links -/

/-- Link the cell of row `i`. -/
def linkRow (i : Nat) (cells : Array Cell) (places : Array Nat) : Option (Array Cell × Array Nat) :=
  match cells[i]? with
  | none => none
  | some c =>
    match places[c.byte.toNat]? with
    | none => none
    | some p =>
      match cells[p]? with
      | none => none
      | some d =>
        match write? cells p (d.withLink i), write? places c.byte.toNat (p + 1) with
        | some cells, some places => some (cells, places)
        | _, _ => none

/-- The rows are linked one behind the other. -/
lemma linkFrom_succ (i n : Nat) (cells : Array Cell) (places : Array Nat) :
    linkFrom i (n + 1) cells places =
      (linkRow i cells places).bind fun p => linkFrom (i + 1) n p.1 p.2 := by
  simp only [linkFrom, linkRow]
  cases cells[i]? with
  | none => rfl
  | some c =>
    cases hp : places[c.byte.toNat]? with
    | none => simp only [hp, Option.bind_none]
    | some p =>
      cases hd : cells[p]? with
      | none => simp only [hp, hd, Option.bind_none]
      | some d =>
        simp only [hp, hd]
        cases write? cells p (d.withLink i) <;>
          cases write? places c.byte.toNat (p + 1) <;> rfl

/-- The output of a block whose cells are linked. -/
def Gathering.afterLinks (origin : Nat) : Option (Array Cell) → Finished
  | none => .late .outOfBounds (blankOutput #[] 0)
  | some cells =>
    match cells[origin]? with
    | none => .late .outOfBounds (blankOutput #[] 0)
    | some c =>
      match (blankOutput cells c.link).next with
      | .error s => .late s (blankOutput cells c.link)
      | .ok (b, o) => .ready { o with ahead := b }

/-- A block is linked if its starts are valid; then the output begins. -/
lemma Gathering.link_eq (origin : Nat) (counts : Array Nat) (cells : Array Cell) :
    link origin counts cells =
      if startsValid counts (starts counts) cells.size then
        afterLinks origin (linkFrom 0 cells.size cells (starts counts))
      else .late .dataError (blankOutput cells 0) := by
  simp only [link, linkCells]
  split_ifs
  · cases linkFrom 0 cells.size cells (starts counts) <;> rfl
  · rfl

/-- The step that ends the reading of a block. -/
def Phase.ending (retry : Gathering → Phase) : Gathering.Finished → Step
  | .ready o => .stop .ok (.writing o)
  | .badOrigin g => (retry g).fail
  | .late s o => .stop s (.writing o)

/-- What the end of a block leads to depends on how the block is finished. -/
lemma Phase.endBlock_eq (retry : Gathering → Phase) (g : Gathering) :
    endBlock retry g = ending retry g.finish := by
  rw [endBlock]
  cases g.finish <;> rfl

/-! ## Tasks -/

/-- What a field has started. -/
inductive Task where
  /-- `n` copies of a byte are still to be added to a block, before the symbol that ended their run
  is taken. -/
  | fill (n : Nat) (b : UInt8) (retry : Gathering → Phase) (sym : Nat) (g : Gathering)
  /-- The cells of `n` rows are still to be linked, from row `i` on. -/
  | link (retry : Gathering → Phase) (origin i n : Nat) (cells : Array Cell) (places : Array Nat)
  /-- All is done. -/
  | done (st : Step)

namespace Task

/-- What comes of a task. -/
def result : Task → Step
  | fill n b retry sym g =>
    match g.fill n b with
    | .ok g => Phase.acceptOther retry sym g
    | .error (s, g) => .stop s (.reading (retry g))
  | link retry origin i n cells places =>
    Phase.ending retry (Gathering.afterLinks origin (linkFrom i n cells places))
  | done st => st

/-- The task of completing a block. -/
def ofBlock (retry : Gathering → Phase) (g : Gathering) : Task :=
  if g.cells.size ≤ g.plan.origin.toNat then .done (retry g).fail
  else if startsValid g.counts (starts g.counts) g.cells.size then
    .link retry g.plan.origin.toNat 0 g.cells.size g.cells (starts g.counts)
  else .done (.stop .dataError (.writing (Gathering.blankOutput g.cells 0)))

/-- The task of a symbol that is no digit of a run. -/
def ofOther (retry : Gathering → Phase) (sym : Nat) (g : Gathering) : Task :=
  if sym = g.plan.endSymbol then ofBlock retry g
  else .done (Phase.awaitCode .afterLiteral retry (g.literal (sym - 1)))

/-- The task of a symbol. -/
def ofSymbol (place : Place) (retry : Gathering → Phase) (sym : Nat) (g : Gathering) : Task :=
  if place = .afterDigit then
    if sym < 2 then .done (Phase.awaitCode .afterDigit retry (g.digit sym))
    else
      match g.front with
      | none => .done (.stop .outOfBounds (.reading (retry g)))
      | some b => .fill (g.run + 1).toNat b retry sym (g.countRun b)
  else if sym = g.plan.endSymbol then ofBlock retry g
  else .done (Phase.acceptSymbol place retry sym g)

/-- The task of a field. -/
def ofField (p : Phase) (v : Nat) : Task :=
  match p with
  | .code place more length value g =>
    let value := if more then 2 * value + v else v
    match g.table.lookup length value with
    | .symbol sym => ofSymbol place (.code place more length value) sym g
    | _ => .done (Phase.acceptCode place more length value g)
  | p => .done (p.accept v)

/-- One iteration. -/
def step : Task → Task
  | fill 0 _ retry sym g => ofOther retry sym { g with run := 0 }
  | fill (n + 1) b retry sym g =>
    if maxBlock ≤ g.cells.size then
      .done (.stop .dataError (.reading (retry { g with run := (n + 1 : Nat) })))
    else .fill n b retry sym { g with cells := g.cells.push (Cell.ofByte b) }
  | link retry origin _ 0 cells _ =>
    .done (Phase.ending retry (Gathering.afterLinks origin (some cells)))
  | link retry origin i (n + 1) cells places =>
    match linkRow i cells places with
    | none => .done (Phase.ending retry (Gathering.afterLinks origin none))
    | some (cells, places) => .link retry origin (i + 1) n cells places
  | done st => .done st

/-- The work at the end of a block has the result of the phase. -/
lemma result_ofBlock (retry : Gathering → Phase) (g : Gathering) :
    (ofBlock retry g).result = Phase.endBlock retry g := by
  rw [Phase.endBlock_eq, Gathering.finish, Gathering.link_eq, ofBlock]
  split_ifs <;> rfl

/-- The work on a symbol that is no digit has the result of the phase. -/
lemma result_ofOther (retry : Gathering → Phase) (sym : Nat) (g : Gathering) :
    (ofOther retry sym g).result = Phase.acceptOther retry sym g := by
  rw [ofOther, Phase.acceptOther]
  split_ifs
  · exact result_ofBlock retry g
  · rfl

/-- The work on a symbol has the result of the phase. -/
lemma result_ofSymbol (place : Place) (retry : Gathering → Phase) (sym : Nat) (g : Gathering) :
    (ofSymbol place retry sym g).result = Phase.acceptSymbol place retry sym g := by
  by_cases hplace : place = .afterDigit
  · rw [ofSymbol, Phase.acceptSymbol, if_pos hplace, if_pos hplace]
    split_ifs
    · rfl
    · rw [Gathering.flush_eq_fill]
      cases g.front <;> rfl
  · rw [ofSymbol, if_neg hplace]
    split_ifs with hend
    · rw [Phase.acceptSymbol, if_neg hplace, if_pos hend]
      exact result_ofBlock retry g
    · rfl

/-- **A field comes to what its phase makes of it.** -/
theorem result_ofField (p : Phase) (v : Nat) : (ofField p v).result = p.accept v := by
  cases p with
  | code place more length value g =>
    simp only [ofField, Phase.accept]
    split
    · rename_i sym hlookup
      simp only [Phase.acceptCode, hlookup]
      exact result_ofSymbol place _ sym g
    · rfl
  | _ => rfl

/-- An iteration does not change what comes of a task. -/
theorem result_step (t : Task) : t.step.result = t.result := by
  cases t with
  | fill n b retry sym g =>
    cases n with
    | zero =>
      rw [step, result_ofOther, result, Gathering.fill_zero]
    | succ n =>
      rw [step, result]
      split_ifs with hfull
      · rw [Gathering.fill_of_full hfull]
        rfl
      · rw [Gathering.fill_succ (by omega)]
        rfl
  | link retry origin i n cells places =>
    cases n with
    | zero => rfl
    | succ n =>
      rw [step, result, linkFrom_succ]
      cases linkRow i cells places <;> rfl
  | done st => rfl

end Task

/-! ## Machines -/

/-- Decoding, with all that is going on at a time: the decoder `s`, what the current call has
`written`, and the `out`put of the calls before. -/
inductive Machine where
  /-- The next call is about to begin. -/
  | between (s : Stream) (out : Array UInt8)
  /-- A call is going on. -/
  | calling (s : Stream) (written out : Array UInt8)
  /-- A call is busy with a field that was read. -/
  | working (t : Task) (s : Stream) (written out : Array UInt8)
  /-- Decoding has come to its end. -/
  | halted (out : Array UInt8)

namespace Machine

/-- A machine that is about to decode a byte string. -/
def start (data : Bytes) : Machine :=
  .between (Stream.setInput {} data) #[]

/-- A call has returned. -/
def returned (st : Status) (s : Stream) (written out : Array UInt8) : Machine :=
  if st.isError then .halted out
  else if written.isEmpty then .halted out
  else .between s (out ++ written)

/-- A call goes on with what a field came to. -/
def entered (st : Step) (s : Stream) (written out : Array UInt8) : Machine :=
  match st with
  | .wait p => .calling { s with mode := .reading p } written out
  | .stop .streamEnd m => returned .streamEnd { s with mode := m } written out
  | .stop .outOfBounds m => returned .outOfBounds { s with mode := m } written out
  | .stop _ (.writing o) => .calling { s with mode := .writing o } written out
  | .stop st m => returned st { s with mode := m } written out

/-- A call fetches a byte for its field, or begins to work on it. -/
def read (p : Phase) (s : Stream) (written out : Array UInt8) : Machine :=
  match s.reader with
  | ⟨word, live, input⟩ =>
    if p.width ≤ live then
      .working (.ofField p (BitReader.fieldOf word live p.width))
        { s with reader := ⟨word, live - p.width, input⟩ } written out
    else
      match input with
      | [] => returned .ok s written out
      | b :: rest =>
        .calling { s with reader := ⟨(word <<< 8) ||| b.toUInt32, live + 8, rest⟩ } written out

/-- A call writes a byte of a run, or turns to the next run. -/
def write (o : Output) (s : Stream) (written out : Array UInt8) : Machine :=
  if 0 < o.pending then
    if s.room = 0 then returned .ok s written out
    else
      .calling { s with mode := .writing { o with pending := o.pending - 1 }, room := s.room - 1 }
        (written.push o.char) out
  else if o.readable < o.used then returned .dataError s written out
  else if o.used = o.readable then .calling { s with mode := .reading .mark } written out
  else
    match o.startRun with
    | .error st => returned st s written out
    | .ok o' => .calling { s with mode := .writing o' } written out

/-- One iteration. -/
def step : Machine → Machine
  | between s out => .calling (s.setRoom bufferSize) #[] out
  | calling s written out =>
    match s.mode with
    | .idle => returned .sequenceError s written out
    | .writing o => write o s written out
    | .reading p => read p s written out
  | working (.done st) s written out => entered st s written out
  | working t s written out => .working t.step s written out
  | halted out => .halted out

/-- Work that is not done takes one step. -/
lemma step_working {t : Task} (h : ∀ st, t ≠ .done st) (s : Stream) (written out : Array UInt8) :
    (working t s written out).step = .working t.step s written out := by
  cases t with
  | done st => exact absurd rfl (h st)
  | _ => rfl

/-- Some iterations. -/
def run : Nat → Machine → Machine
  | 0, m => m
  | _ + 1, halted out => .halted out
  | n + 1, m => run n m.step

end Machine

/-! ## What is decoded in the end -/

/-- What is decoded in the end, when a call has returned. -/
def Call.answer (c : Call) (out : Array UInt8) : Array UInt8 :=
  if c.status.isError then out
  else if c.written = #[] then out
  else decompressFrom c.stream (out ++ c.written)

/-- Decompression answers what the next call of the decoder answers. -/
lemma decompressFrom_eq_answer (s : Stream) (out : Array UInt8) :
    decompressFrom s out = (s.setRoom bufferSize).call.answer out := by
  rw [decompressFrom]
  rfl

/-- A call that ends in an error adds nothing to the output. -/
lemma Call.answer_of_isError {c : Call} (h : c.status.isError) (out : Array UInt8) :
    c.answer out = out := by
  rw [answer, if_pos h]

/-- A field that waits already is taken. -/
lemma BitReader.read_of_le {n live : Nat} (h : n ≤ live) (word : UInt32) (input : Bytes) :
    read n ⟨word, live, input⟩ = (some (fieldOf word live n), ⟨word, live - n, input⟩) := by
  rw [read, readFrom.eq_def, if_pos h]

namespace Stream

/-- How a call goes on after what a field came to. -/
def afterField (st : Step) (s : Stream) (written : Array UInt8) : Call :=
  match st with
  | .wait p => loop { s with mode := .reading p } written
  | .stop .streamEnd m => ⟨.streamEnd, written, { s with mode := m }⟩
  | .stop .outOfBounds m => ⟨.outOfBounds, written, { s with mode := m }⟩
  | .stop _ (.writing o) => loop { s with mode := .writing o } written
  | .stop st m => ⟨st, written, { s with mode := m }⟩

/-- Behind a field, the decoder goes on with what the phase makes of it. -/
lemma loop_of_field {s : Stream} {p : Phase} {v : Nat} {r : BitReader} (hm : s.mode = .reading p)
    (hread : s.reader.read p.width = (some v, r)) (written : Array UInt8) :
    s.loop written = afterField (p.accept v) { s with reader := r } written := by
  rw [loop_of_reading hm]
  cases haccept : p.accept v with
  | wait p' =>
    rw [Phase.run_of_wait hread haccept, afterField, loop_of_reading rfl]
  | stop st m =>
    rw [Phase.run_of_stop hread haccept]
    cases st <;> cases m <;> rfl

/-- A byte that is fetched for a field does not change what the field is. -/
lemma loop_of_fetch {word : UInt32} {live : Nat} {b : UInt8} {rest : Bytes} {p : Phase}
    (h : ¬ p.width ≤ live) (room : Nat) (written : Array UInt8) :
    loop ⟨.reading p, ⟨(word <<< 8) ||| b.toUInt32, live + 8, rest⟩, room⟩ written =
      loop ⟨.reading p, ⟨word, live, b :: rest⟩, room⟩ written := by
  have hread : BitReader.read p.width ⟨word, live, b :: rest⟩ =
      BitReader.read p.width ⟨(word <<< 8) ||| b.toUInt32, live + 8, rest⟩ := by
    simp only [BitReader.read]
    rw [BitReader.readFrom, if_neg h]
  have hrun : p.run ⟨word, live, b :: rest⟩ =
      p.run ⟨(word <<< 8) ||| b.toUInt32, live + 8, rest⟩ := by
    rw [Phase.run_eq, hread, ← Phase.run_eq]
  rw [loop_of_reading rfl, loop_of_reading rfl, hrun]

end Stream

namespace Output

/-- How writing stopped, with something written before. -/
def Drained.after (before : Array UInt8) : Drained → Drained
  | .suspended o written => .suspended o (before ++ written)
  | .finished room written => .finished room (before ++ written)
  | .corrupt s => .corrupt s

/-- The output goes on with a run, with the next one, or ends. -/
lemma drain_eq (o : Output) (room : Nat) (written : Array UInt8) :
    o.drain room written =
      if room < o.pending then
        .suspended { o with pending := o.pending - room } (written ++ Array.replicate room o.char)
      else if o.readable < o.used then .corrupt .dataError
      else if o.used = o.readable then
        .finished (room - o.pending) (written ++ Array.replicate o.pending o.char)
      else
        match o.startRun with
        | .error s => .corrupt s
        | .ok o' => o'.drain (room - o.pending) (written ++ Array.replicate o.pending o.char) := by
  rw [drain]
  refine ite_congr rfl (fun _ => rfl) fun _ => ite_congr rfl (fun _ => rfl) fun _ =>
    ite_congr rfl (fun _ => rfl) fun _ => ?_
  split <;> simp_all

/-- What was written before the output goes on stands before the rest. -/
lemma drain_after (o : Output) (room : Nat) (before written : Array UInt8) :
    o.drain room (before ++ written) = (o.drain room written).after before := by
  fun_induction drain o room written with
  | case1 o room written hroom =>
    rw [drain_eq, if_pos hroom, Drained.after, Array.append_assoc]
  | case2 o room written hroom hlt =>
    rw [drain_eq, if_neg hroom, if_pos hlt, Drained.after]
  | case3 o room written hroom hlt heq =>
    rw [drain_eq, if_neg hroom, if_neg hlt, if_pos heq, Drained.after, Array.append_assoc]
  | case4 o room written hroom hlt hne s hs =>
    rw [drain_eq, if_neg hroom, if_neg hlt, if_neg hne, hs, Drained.after]
  | case5 o room written hroom hlt hne o₁ h₁ ih =>
    rw [drain_eq, if_neg hroom, if_neg hlt, if_neg hne, h₁, ← ih, Array.append_assoc]

/-- A byte of a run is written before the others. -/
lemma drain_byte {o : Output} {room : Nat} (hpending : 0 < o.pending) (hroom : 0 < room)
    (written : Array UInt8) :
    o.drain room written =
      { o with pending := o.pending - 1 }.drain (room - 1) (written.push o.char) := by
  have hcells : ∀ k, 0 < k → written ++ Array.replicate k o.char =
      written.push o.char ++ Array.replicate (k - 1) o.char := by
    intro k hk
    obtain ⟨k, rfl⟩ := Nat.exists_eq_add_one.2 hk
    apply Array.toList_inj.1
    simp [List.replicate_succ]
  rw [drain_eq o, drain_eq { o with pending := o.pending - 1 },
    startRun_setPending o (o.pending - 1)]
  by_cases h : room < o.pending
  · have hleft : o.pending - room = o.pending - 1 - (room - 1) := by omega
    rw [if_pos h, if_pos (show room - 1 < o.pending - 1 by omega), hleft, hcells room hroom]
  · have hleft : room - o.pending = room - 1 - (o.pending - 1) := by omega
    rw [if_neg h, if_neg (show ¬ room - 1 < o.pending - 1 by omega), hleft,
      hcells o.pending hpending]
    rfl

end Output

namespace Stream

/-- What was written before can be counted as written, unless the call fails. -/
lemma answer_afterDrain_after {s t : Stream} (hreader : s.reader = t.reader) {d : Output.Drained}
    (herror : ∀ st, d = .corrupt st → st.isError) (written before out : Array UInt8) :
    (s.afterDrain written (d.after before)).answer out =
      (t.afterDrain (written ++ before) d).answer out := by
  cases d with
  | suspended o x => simp only [Output.Drained.after, afterDrain, hreader, Array.append_assoc]
  | finished room x => simp only [Output.Drained.after, afterDrain, hreader, Array.append_assoc]
  | corrupt st =>
    have hst := herror st rfl
    rw [Output.Drained.after, Call.answer_of_isError hst, Call.answer_of_isError hst]

/-- A call that writes can be told from the rest of its run. -/
lemma answer_loop_of_drain {s t : Stream} {o o' : Output} (hs : s.mode = .writing o)
    (ht : t.mode = .writing o') (hreader : s.reader = t.reader) {before : Array UInt8}
    (hdrain : o.drain s.room #[] = o'.drain t.room before) (written out : Array UInt8) :
    (s.loop written).answer out = (t.loop (written ++ before)).answer out := by
  have hafter := Output.drain_after o' t.room before #[]
  rw [Array.append_empty] at hafter
  rw [loop_of_writing hs, loop_of_writing ht, hdrain, hafter,
    answer_afterDrain_after hreader fun st => Output.isError_of_drain]

end Stream

namespace Machine

/-- What is decoded in the end. -/
def answer : Machine → Array UInt8
  | between s out => decompressFrom s out
  | calling s written out => (s.loop written).answer out
  | working t s written out => (Stream.afterField t.result s written).answer out
  | halted out => out

/-- A call that has returned answers what it returned. -/
lemma answer_returned (st : Status) (s : Stream) (written out : Array UInt8) :
    (returned st s written out).answer = Call.answer ⟨st, written, s⟩ out := by
  simp only [returned, Call.answer, Array.isEmpty_iff]
  split_ifs <;> rfl

/-- A step that was entered answers what the decoder does behind it. -/
lemma answer_entered (st : Step) (s : Stream) (written out : Array UInt8) :
    (entered st s written out).answer = (Stream.afterField st s written).answer out := by
  cases st with
  | wait p => rfl
  | stop st m =>
    have hreturned := answer_returned st { s with mode := m } written out
    cases m with
    | writing o =>
      cases st with
      | streamEnd => exact hreturned
      | outOfBounds => exact hreturned
      | _ => rfl
    | _ => cases st <;> exact hreturned

/-- Reading a field answers what the decoder does next. -/
lemma answer_read {s : Stream} {p : Phase} (hm : s.mode = .reading p) (written out : Array UInt8) :
    (read p s written out).answer = (s.loop written).answer out := by
  obtain ⟨mode, ⟨word, live, input⟩, room⟩ := s
  subst hm
  simp only [read]
  split_ifs with hlive
  · rw [answer, Task.result_ofField,
      Stream.loop_of_field rfl (BitReader.read_of_le hlive word input)]
  · cases input with
    | nil =>
      have hread : BitReader.read p.width ⟨word, live, []⟩ = (none, ⟨word, live, []⟩) := by
        rw [BitReader.read, BitReader.readFrom, if_neg hlive]
      rw [answer_returned, Stream.loop_of_reading rfl, Phase.run_of_none hread]
    | cons b rest => rw [answer, Stream.loop_of_fetch hlive]

/-- Writing out answers what the decoder does next. -/
lemma answer_write {s : Stream} {o : Output} (hm : s.mode = .writing o)
    (written out : Array UInt8) : (write o s written out).answer = (s.loop written).answer out := by
  rw [write]
  split_ifs with hpending hroom hlt heq
  · have hdrain : o.drain s.room #[] = .suspended o #[] := by
      rw [Output.drain_eq, if_pos (by omega), hroom]
      rfl
    rw [answer_returned, Stream.loop_of_writing hm, hdrain, Stream.afterDrain, Array.append_empty,
      ← hroom, ← hm]
  · have hdrain := Output.drain_byte hpending (Nat.pos_of_ne_zero hroom) #[]
    have hloop := Stream.answer_loop_of_drain
      (t := { s with mode := .writing { o with pending := o.pending - 1 }, room := s.room - 1 })
      hm rfl rfl hdrain written out
    rw [answer, hloop]
    simp
  all_goals
    have hdrain := Output.drain_eq o s.room #[]
    rw [if_neg (by omega)] at hdrain
  · rw [if_pos hlt] at hdrain
    rw [answer_returned, Stream.loop_of_writing hm, hdrain, Stream.afterDrain]
  · rw [if_neg hlt, if_pos heq, Nat.eq_zero_of_not_pos hpending] at hdrain
    rw [answer, Stream.loop_of_writing hm, hdrain, Stream.afterDrain]
    simp
  · rw [if_neg hlt, if_neg heq, Nat.eq_zero_of_not_pos hpending] at hdrain
    cases hrun : o.startRun with
    | error st =>
      simp only [hrun] at hdrain
      rw [answer_returned, Stream.loop_of_writing hm, hdrain, Stream.afterDrain]
    | ok o' =>
      simp only [hrun] at hdrain
      have hloop := Stream.answer_loop_of_drain (t := { s with mode := .writing o' })
        hm rfl rfl hdrain written out
      rw [answer, hloop]
      simp

/-- **A step does not change what is decoded in the end.** -/
theorem answer_step (m : Machine) : m.step.answer = m.answer := by
  cases m with
  | between s out => exact (decompressFrom_eq_answer s out).symm
  | calling s written out =>
    rw [step, answer]
    cases hm : s.mode with
    | idle => rw [answer_returned, Stream.loop_of_idle hm]
    | writing o => exact answer_write hm written out
    | reading p => exact answer_read hm written out
  | working t s written out =>
    by_cases ht : ∃ st, t = .done st
    · obtain ⟨st, rfl⟩ := ht
      exact answer_entered st s written out
    · rw [step_working (fun st hst => ht ⟨st, hst⟩), answer, answer, Task.result_step]
  | halted out => rfl

end Machine

end Nsis.Bzip2
