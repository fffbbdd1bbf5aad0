import Mathlib.Data.List.Basic
import Mathlib.Tactic.SplitIfs
import Nsis.Proofs.Bzip2.Machine
import Nsis.Proofs.Bzip2.Safety

/-!
# Decoding comes to an end

Whatever the data, decoding takes a number of iterations that is linear in their length. The loops
make progress on different things: a call uses up bits of the input, bytes of the current block, or
room for output, and between two calls the room is there again. So a machine is given a potential,
which counts what is left of each, with weights: a bit that is left counts as much as a whole block
can cost, a byte of a block more than a change from call to call. Every step lowers the potential.

## Main definitions

* `Nsis.Bzip2.Task.left` — how many iterations are left for a field.
* `Nsis.Bzip2.Machine.Sound` — soundness of a machine.
* `Nsis.Bzip2.Machine.potential` — what is left to be done.

## Main results

* `Nsis.Bzip2.Machine.sound_step`, `Nsis.Bzip2.Machine.potential_step_lt` — what a step preserves,
  and what it lowers.
* `Nsis.Bzip2.Machine.exists_run_eq_halted` — a sound machine halts with its answer.
* `Nsis.Bzip2.Machine.halts_within_linear_steps` — decoding comes to an end.
-/

namespace Nsis.Bzip2

/-! ## The block that a field leads to -/

namespace Step

/-- What is left to be done with the block that a step leads to. -/
def work : Step → Nat
  | .wait _ => 0
  | .stop _ m => m.work

/-- Nothing of the block that a step leads to is pending. -/
def Fresh : Step → Prop
  | .stop _ (.writing o) => o.pending = 0
  | _ => True

end Step

/-- Going on to the next byte leaves the run as it is. -/
lemma Output.pending_next {o o' : Output} {b : UInt8} (h : o.next = .ok (b, o')) :
    o'.pending = o.pending := by
  unfold next at h
  split_ifs at h
  split at h
  · cases h
  · cases h
    rfl

namespace Phase

/-- The end of a block with linked rows leaves nothing of a block pending. -/
lemma fresh_ending_afterLinks (retry : Gathering → Phase) (origin : Nat)
    (cells : Option (Array Cell)) : (ending retry (Gathering.afterLinks origin cells)).Fresh := by
  cases cells with
  | none => rfl
  | some cells =>
    simp only [Gathering.afterLinks]
    split
    · rfl
    · split
      · rfl
      · rename_i hnext
        exact Output.pending_next hnext

/-- The end of a block leaves nothing of a block pending. -/
lemma fresh_endBlock (retry : Gathering → Phase) (g : Gathering) : (endBlock retry g).Fresh := by
  rw [endBlock_eq, Gathering.finish, Gathering.link_eq]
  split_ifs
  · trivial
  · exact fresh_ending_afterLinks retry _ _
  · rfl

/-- Waiting for a code leaves nothing of a block pending. -/
lemma fresh_awaitCode (place : Place) (retry : Gathering → Phase) (r : Gathering.Result) :
    (awaitCode place retry r).Fresh := by
  rw [awaitCode]
  split <;> trivial

/-- A symbol that is no digit leaves nothing of a block pending. -/
lemma fresh_acceptOther (retry : Gathering → Phase) (sym : Nat) (g : Gathering) :
    (acceptOther retry sym g).Fresh := by
  rw [acceptOther]
  split_ifs
  · exact fresh_endBlock retry g
  · exact fresh_awaitCode _ retry _

/-- A symbol leaves nothing of a block pending. -/
lemma fresh_acceptSymbol (place : Place) (retry : Gathering → Phase) (sym : Nat) (g : Gathering) :
    (acceptSymbol place retry sym g).Fresh := by
  rw [acceptSymbol]
  split_ifs
  · exact fresh_awaitCode _ retry _
  · split
    · exact fresh_acceptOther retry sym _
    · trivial
  · exact fresh_endBlock retry g
  · exact fresh_awaitCode _ retry _
  · exact fresh_awaitCode _ retry _

/-- The end of the map of ranges leaves nothing of a block pending. -/
lemma fresh_endRanges (row : UInt32) (ranges : List UInt8) : (endRanges row ranges).Fresh := by
  rw [endRanges]
  split <;> trivial

/-- The end of the selectors leaves nothing of a block pending. -/
lemma fresh_endSelectors (row : UInt32) (used : Array UInt8) (count : Nat) (ranks : Array Nat) :
    (endSelectors row used count ranks).Fresh := by
  rw [endSelectors]
  split <;> trivial

/-- Nothing of a block is pending when its last field was read. -/
lemma fresh_accept (p : Phase) (v : Nat) : (p.accept v).Fresh := by
  cases p with
  | mark =>
    simp only [accept]
    split_ifs <;> trivial
  | origin left value =>
    cases left with
    | zero =>
      simp only [accept]
      split_ifs <;> trivial
    | succ left => trivial
  | rangeMap row todo found =>
    cases todo with
    | nil => trivial
    | cons r todo =>
      simp only [accept]
      by_cases hlast : todo.isEmpty
      · rw [if_pos hlast]
        exact fresh_endRanges row _
      · rw [if_neg hlast]
        trivial
  | byteMap row todo found =>
    cases todo with
    | nil => trivial
    | cons b todo =>
      simp only [accept, endMap]
      split_ifs <;> trivial
  | tableCount row used =>
    simp only [accept]
    split_ifs <;> trivial
  | selectorCount row used count =>
    simp only [accept]
    split_ifs <;> trivial
  | selector row used count left ones ranks =>
    simp only [accept]
    split_ifs
    exacts [fresh_endSelectors .., fresh_endSelectors .., trivial, trivial, trivial, trivial]
  | firstLength d =>
    simp only [accept, checkLength]
    split_ifs <;> trivial
  | lengthChanges d length =>
    simp only [accept, endTable]
    split_ifs
    · trivial
    · trivial
    · exact fresh_awaitCode _ _ _
    · trivial
  | lengthShrinks d length =>
    simp only [accept, checkLength]
    split_ifs <;> trivial
  | code place more length value g =>
    simp only [accept, acceptCode]
    split
    · exact fresh_acceptSymbol place _ _ g
    all_goals trivial

/-- The largest number of bytes that a block can be written as, and a bit more. -/
def maxWork : Nat := 1 + 300 * (maxBlock + 1)

/-- A sound field leads to a block that is not too long. -/
lemma work_accept_le {p : Phase} {v : Nat} (h : SoundStep (p.accept v)) :
    (p.accept v).work ≤ maxWork := by
  have hfresh := fresh_accept p v
  cases haccept : p.accept v with
  | wait p' => exact Nat.zero_le maxWork
  | stop st m =>
    rw [haccept] at h hfresh
    rcases h with ⟨-, rfl⟩ | ⟨-, o, rfl, ho⟩ | ⟨-, p', rfl⟩
    · exact Nat.zero_le maxWork
    · have hpending : o.pending = 0 := hfresh
      have hsize := ho.size_le
      have hwork : o.work ≤ 300 * (maxBlock + 1) := by
        unfold Output.work Output.readable
        omega
      exact Nat.add_le_add_left hwork 1
    · exact Nat.zero_le maxWork

end Phase

/-! ## The iterations of a field -/

namespace Task

/-- How many iterations are left for a field, at most. Every cell that a run adds is linked
later. -/
def left : Task → Nat
  | fill _ _ _ _ g => 2 * (maxBlock - g.cells.size) + g.cells.size + 2
  | link _ _ _ n _ _ => n + 1
  | done _ => 0

/-- The end of a block takes at most one iteration for each cell, and one more. -/
lemma left_ofBlock_le (retry : Gathering → Phase) (g : Gathering) :
    (ofBlock retry g).left ≤ g.cells.size + 1 := by
  rw [ofBlock]
  split_ifs
  · exact Nat.zero_le _
  · exact le_rfl
  · exact Nat.zero_le _

/-- A symbol that is no digit takes at most one iteration for each cell, and one more. -/
lemma left_ofOther_le (retry : Gathering → Phase) (sym : Nat) (g : Gathering) :
    (ofOther retry sym g).left ≤ g.cells.size + 1 := by
  rw [ofOther]
  split_ifs
  · exact left_ofBlock_le retry g
  · exact Nat.zero_le _

/-- Every iteration counts. -/
lemma left_step_lt {t : Task} (h : ∀ st, t ≠ .done st) : t.step.left < t.left := by
  cases t with
  | fill n b retry sym g =>
    cases n with
    | zero =>
      have hle := left_ofOther_le retry sym { g with run := 0 }
      simp only [step, left] at hle ⊢
      omega
    | succ n =>
      simp only [step]
      split_ifs with hfull
      · simp only [left]
        omega
      · simp only [left, Array.size_push]
        omega
  | link retry origin i n cells places =>
    cases n with
    | zero => exact Nat.zero_lt_succ _
    | succ n =>
      simp only [step]
      split
      · exact Nat.zero_lt_succ _
      · exact Nat.lt_succ_self _
  | done st => exact absurd rfl (h st)

/-- The most iterations that a field can take. -/
def maxLeft : Nat := 2 * maxBlock + 2

/-- A symbol takes no more iterations than a field can take. -/
lemma left_ofSymbol_le {g : Gathering} (h : g.cells.size ≤ maxBlock) (place : Place)
    (retry : Gathering → Phase) (sym : Nat) : (ofSymbol place retry sym g).left ≤ maxLeft := by
  have hblock := left_ofBlock_le retry g
  rw [ofSymbol, maxLeft]
  split_ifs
  · exact Nat.zero_le _
  · split
    · exact Nat.zero_le _
    · simp only [left, Gathering.countRun]
      omega
  · omega
  · exact Nat.zero_le _

/-- A field of a sound phase does not take long. -/
lemma left_ofField_le {p : Phase} (h : p.Sound) (v : Nat) : (ofField p v).left ≤ maxLeft := by
  cases p with
  | code place more length value g =>
    obtain ⟨c, order, column, hshows⟩ := h.1.shows
    have hcells : g.cells.size ≤ maxBlock := by
      rw [hshows.cells_eq, size_cellsOf]
      exact hshows.length_le
    simp only [ofField]
    split
    · exact left_ofSymbol_le hcells place _ _
    · exact Nat.zero_le _
  | _ => exact Nat.zero_le _

end Task

/-! ## Sound machines -/

namespace Machine

/-- The decoder of a sound machine is sound, and a field leads on soundly. -/
def Sound : Machine → Prop
  | between s _ => s.mode.Sound
  | calling s _ _ => s.mode.Sound
  | working t _ _ _ => Phase.SoundStep t.result
  | halted _ => True

/-- A machine whose call has returned is sound. -/
lemma sound_returned {s : Stream} (h : s.mode.Sound) (st : Status) (written out : Array UInt8) :
    (returned st s written out).Sound := by
  rw [returned]
  split_ifs
  · trivial
  · trivial
  · exact h

/-- A machine that enters a sound step is sound. -/
lemma sound_entered {st : Step} (h : Phase.SoundStep st) (s : Stream) (written out : Array UInt8) :
    (entered st s written out).Sound := by
  cases st with
  | wait p => exact h
  | stop st m =>
    rcases h with ⟨rfl, rfl⟩ | ⟨rfl, o, rfl, ho⟩ | ⟨rfl, p, rfl⟩
    · exact sound_returned (s := { s with mode := .idle }) trivial _ _ _
    · exact ho
    · trivial

/-- A machine that reads in a sound phase is sound. -/
lemma sound_read {s : Stream} {p : Phase} (hm : s.mode = .reading p) (h : p.Sound)
    (written out : Array UInt8) : (read p s written out).Sound := by
  have hs : s.mode.Sound := by rwa [hm]
  rw [read]
  split
  rename_i word live input hreader
  split_ifs with hlive
  · rw [Sound, Task.result_ofField]
    exact h.soundStep_of_read (BitReader.read_of_le hlive word input)
  · split
    · exact sound_returned hs _ _ _
    · exact hs

/-- A machine that writes a sound output is sound. -/
lemma sound_write {s : Stream} {o : Output} (hm : s.mode = .writing o) (h : o.Sound)
    (written out : Array UInt8) : (write o s written out).Sound := by
  have hs : s.mode.Sound := by rwa [hm]
  obtain ⟨o', hrun, ho'⟩ := Output.startRun_eq_ok_of_sound h
  simp only [write, hrun]
  split_ifs
  · exact sound_returned hs _ _ _
  · exact h.congr rfl rfl
  · exact sound_returned hs _ _ _
  · trivial
  · exact ho'

/-- **A sound machine stays sound.** -/
theorem sound_step {m : Machine} (h : m.Sound) : m.step.Sound := by
  cases m with
  | between s out => exact h
  | calling s written out =>
    simp only [Sound] at h
    simp only [step]
    cases hm : s.mode with
    | idle => trivial
    | writing o => exact sound_write hm (by rwa [hm] at h) written out
    | reading p => exact sound_read hm (by rwa [hm] at h) written out
  | working t s written out =>
    by_cases ht : ∃ st, t = .done st
    · obtain ⟨st, rfl⟩ := ht
      exact sound_entered h s written out
    · rw [step_working (fun st hst => ht ⟨st, hst⟩), Sound, Task.result_step]
      exact h
  | halted out => trivial

/-! ## The potential -/

/-- What a bit of the input can cost: it may complete a block of the largest size, of which every
cell is linked and every byte is written. -/
def bitCost : Nat := 4 * Phase.maxWork + Task.maxLeft + 2

/-- What the input of a decoder can still cost. -/
def inputCost (s : Stream) : Nat :=
  bitCost * s.reader.bits + s.reader.input.length

/-- A call that has written something will be followed by another one. -/
def callCost (written : Array UInt8) : Nat :=
  if written.isEmpty then 1 else 3

/-- What is left to be done. -/
def potential : Machine → Nat
  | between s _ => inputCost s + 4 * s.mode.work + 2
  | calling s written _ => inputCost s + 4 * s.mode.work + callCost written
  | working t s written _ => inputCost s + 4 * t.result.work + t.left + 1 + callCost written
  | halted _ => 0

/-- Every call costs something. -/
lemma callCost_pos (written : Array UInt8) : 0 < callCost written := by
  rw [callCost]
  split_ifs <;> decide

/-- No call costs more than three. -/
lemma callCost_le (written : Array UInt8) : callCost written ≤ 3 := by
  rw [callCost]
  split_ifs <;> decide

/-- A call that returns has less left to do. -/
lemma potential_returned_lt (st : Status) (s : Stream) (written out : Array UInt8) :
    (returned st s written out).potential < (calling s written out).potential := by
  have hpos := callCost_pos written
  rw [returned]
  split_ifs with herror hempty
  · simp only [potential]
    omega
  · simp only [potential]
    omega
  · simp only [potential, callCost, if_neg hempty]
    omega

/-- A step that is entered leaves less to do. -/
lemma potential_entered_lt (st : Step) (s : Stream) (written out : Array UInt8) :
    (entered st s written out).potential < (working (.done st) s written out).potential := by
  cases st with
  | wait p =>
    simp only [entered, potential, inputCost, Task.result, Step.work, Mode.work, Task.left]
    omega
  | stop st m =>
    -- the call goes on with the block, or returns
    have hcalling : (calling { s with mode := m } written out).potential <
        (working (.done (.stop st m)) s written out).potential := by
      simp only [potential, inputCost, Task.result, Step.work, Task.left]
      omega
    have hreturned := (potential_returned_lt st { s with mode := m } written out).trans hcalling
    cases m with
    | writing o =>
      cases st with
      | streamEnd => exact hreturned
      | outOfBounds => exact hreturned
      | _ => exact hcalling
    | _ => cases st <;> exact hreturned

/-- Reading a field leaves less to do. -/
lemma potential_read_lt (s : Stream) {p : Phase} (h : p.Sound)
    (written out : Array UInt8) :
    (read p s written out).potential < (calling s written out).potential := by
  rw [read]
  split
  rename_i word live input hreader
  split_ifs with hlive
  · -- the bits of the field pay for its task
    have hleft := Task.left_ofField_le h (BitReader.fieldOf word live p.width)
    have hwork := Phase.work_accept_le (h.soundStep_of_read (BitReader.read_of_le hlive word input))
    have hwidth := p.width_pos
    have hcost : bitCost * (live - p.width) + bitCost ≤ bitCost * live := by
      rw [← Nat.mul_succ]
      exact Nat.mul_le_mul_left _ (by omega)
    simp only [potential, inputCost, hreader, BitReader.bits, Task.result_ofField, Nat.mul_add]
    simp only [bitCost] at hcost ⊢
    omega
  · split
    · exact potential_returned_lt ..
    · simp only [potential, inputCost, hreader, BitReader.bits, List.length_cons, Nat.mul_add]
      omega

/-- Writing out leaves less to do. -/
lemma potential_write_lt {s : Stream} {o : Output} (hm : s.mode = .writing o)
    (written out : Array UInt8) :
    (write o s written out).potential < (calling s written out).potential := by
  rw [write]
  split_ifs with hpending hroom hlt heq
  · exact potential_returned_lt ..
  · have hle := callCost_le (written.push o.char)
    have hpos := callCost_pos written
    simp only [potential, inputCost, hm, Mode.work, Output.work, Output.readable]
    omega
  · exact potential_returned_lt ..
  · simp only [potential, inputCost, hm, Mode.work]
    omega
  · split
    · exact potential_returned_lt ..
    · -- the bytes that are read for a run pay for its copies
      rename_i o' hrun
      obtain ⟨hcells, hused, hcopies⟩ := Output.startRun_eq_ok hrun
      simp only [potential, inputCost, hm, Mode.work, Output.work, Output.readable, hcells]
        at hlt heq ⊢
      omega

/-- **Every step of a sound machine lowers its potential**, until it halts. -/
theorem potential_step_lt {m : Machine} (h : m.Sound) (hm : ∀ out, m ≠ .halted out) :
    m.step.potential < m.potential := by
  cases m with
  | between s out => exact Nat.lt_succ_self _
  | calling s written out =>
    simp only [Sound] at h
    simp only [step]
    cases hmode : s.mode with
    | idle => exact potential_returned_lt ..
    | writing o => exact potential_write_lt hmode written out
    | reading p => exact potential_read_lt s (by rwa [hmode] at h) written out
  | working t s written out =>
    by_cases ht : ∃ st, t = .done st
    · obtain ⟨st, rfl⟩ := ht
      exact potential_entered_lt st s written out
    · have hlt := Task.left_step_lt fun st hst => ht ⟨st, hst⟩
      rw [step_working (fun st hst => ht ⟨st, hst⟩)]
      simp only [potential, Task.result_step]
      omega
  | halted out => exact absurd rfl (hm out)

/-! ## Runs -/

/-- A longer run takes its first step, and then goes on. -/
lemma run_succ (n : Nat) (m : Machine) : m.run (n + 1) = m.step.run n := by
  cases m with
  | halted out => cases n <;> rfl
  | _ => rfl

/-- **A sound machine halts with its answer**, after at most as many steps as its potential says. -/
theorem exists_run_eq_halted {m : Machine} (h : m.Sound) :
    ∃ n ≤ m.potential, m.run n = .halted m.answer := by
  induction hp : m.potential using Nat.strong_induction_on generalizing m with
  | _ k ih =>
    by_cases hm : ∃ out, m = .halted out
    · obtain ⟨out, rfl⟩ := hm
      exact ⟨0, Nat.zero_le _, rfl⟩
    · have hlt := potential_step_lt h fun out hout => hm ⟨out, hout⟩
      obtain ⟨n, hn, hrun⟩ := ih _ (hp ▸ hlt) (sound_step h) rfl
      refine ⟨n + 1, by omega, ?_⟩
      rw [run_succ, hrun, answer_step]

/-- **Decoding comes to an end**, whatever the data. All iterations of all calls, of reading fields,
of completing runs and blocks and of writing them are linear in the number of bytes, and when they
are made, what was decoded is there. -/
theorem halts_within_linear_steps (data : Bytes) :
    ∃ n ≤ (8 * bitCost + 1) * data.length + 2,
      (start data).run n = .halted (decompress data).toArray := by
  obtain ⟨n, hn, hrun⟩ := exists_run_eq_halted (m := start data) trivial
  refine ⟨n, hn.trans_eq ?_, ?_⟩
  · simp only [start, potential, inputCost, Stream.setInput, BitReader.bits, Mode.work]
    ring
  · rw [hrun]
    simp only [start, answer, decompress, Array.toArray_toList]

end Machine

end Nsis.Bzip2
