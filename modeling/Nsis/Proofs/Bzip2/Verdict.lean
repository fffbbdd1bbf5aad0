import Mathlib.Data.List.Basic
import Mathlib.Order.Nat
import Nsis.Bzip2.Stream

/-!
# What a decoder makes of all of its input

Calls are given input and room in pieces. What a decoder makes of the input as a whole, with as much
room as it needs, does not mention pieces: how it ends, what it writes, and where it stops. Each
call does a part of that and leaves the rest to the calls after it.

## Main definitions

* `Nsis.Bzip2.Output.remainder` — all that is left to be written of a block.
* `Nsis.Bzip2.verdict` — what a decoder makes of its input.
* `Nsis.Bzip2.BitReader.append` — a reader with more input.

## Main results

* `Nsis.Bzip2.Phase.run_append_of_starved`, `Nsis.Bzip2.Phase.run_append_of_stopped` — reading may
  be interrupted at any byte.
* `Nsis.Bzip2.Output.remainder_of_drain` — writing may be interrupted at any byte.
* `Nsis.Bzip2.Stream.verdict_loop` — a call does a part of what is to be done.
* `Nsis.Bzip2.decompressFrom_eq` — decoding a byte string at once writes all there is.
* `Nsis.Bzip2.decompress_append` — more input only changes how far decoding goes.
-/

namespace Nsis.Bzip2

/-! ## Interrupted reading -/

namespace BitReader

/-- A reader with more input behind its own. -/
def append (r : BitReader) (more : Bytes) : BitReader :=
  { r with input := r.input ++ more }

/-- More input stands behind that which is there. -/
@[simp] lemma input_append (r : BitReader) (more : Bytes) :
    (r.append more).input = r.input ++ more := rfl

/-- A reader that gets nothing stays as it is. -/
lemma append_nil (r : BitReader) : r.append [] = r := by
  simp [append]

/-- A field that can be read does not depend on later input. -/
lemma read_append_of_some {n v : Nat} {r r' : BitReader} (h : r.read n = (some v, r'))
    (more : Bytes) : (r.append more).read n = (some v, r'.append more) := by
  suffices ∀ word live input, readFrom n word live input = (some v, r') →
      readFrom n word live (input ++ more) = (some v, r'.append more) from this _ _ _ h
  intro word live input h
  fun_induction readFrom n word live input with
  | case1 word live input hn =>
    simp only [Prod.mk.injEq] at h
    obtain ⟨hv, rfl⟩ := h
    rw [readFrom.eq_def, if_pos hn, hv]
    rfl
  | case2 word live hn => simp at h
  | case3 word live hn b rest ih =>
    rw [List.cons_append, readFrom, if_neg hn]
    exact ih h

/-- A read that fails has used up the input, and can be taken up with more. -/
lemma read_append_of_none {n : Nat} {r r' : BitReader} (h : r.read n = (none, r')) (more : Bytes) :
    r'.input = [] ∧ (r.append more).read n = (r'.append more).read n := by
  suffices ∀ word live input, readFrom n word live input = (none, r') →
      r'.input = [] ∧ readFrom n word live (input ++ more) = (r'.append more).read n from
    this _ _ _ h
  intro word live input h
  fun_induction readFrom n word live input with
  | case1 word live input hn => simp at h
  | case2 word live hn =>
    simp only [Prod.mk.injEq, true_and] at h
    obtain rfl := h
    exact ⟨rfl, rfl⟩
  | case3 word live hn b rest ih =>
    rw [List.cons_append, readFrom, if_neg hn]
    exact ih h

end BitReader

namespace Phase

/-- Reading, one field at a time. -/
lemma run_eq (p : Phase) (r : BitReader) :
    p.run r =
      match r.read p.width with
      | (none, r') => .starved p r'
      | (some v, r') =>
        match p.accept v with
        | .wait p' => p'.run r'
        | .stop s m => .stopped s m r' := by
  fun_cases run p r <;> simp_all

/-- A phase that waits goes on with the next one. -/
lemma run_of_wait {p p' : Phase} {r r' : BitReader} {v : Nat} (h : r.read p.width = (some v, r'))
    (hp : p.accept v = .wait p') : p.run r = p'.run r' := by
  rw [run_eq, h]
  simp only [hp]

/-- A phase that stops stops its run. -/
lemma run_of_stop {p : Phase} {r r' : BitReader} {v : Nat} {s : Status} {m : Mode}
    (h : r.read p.width = (some v, r')) (hp : p.accept v = .stop s m) :
    p.run r = .stopped s m r' := by
  rw [run_eq, h]
  simp only [hp]

/-- A phase without a field is starved. -/
lemma run_of_none {p : Phase} {r r' : BitReader} (h : r.read p.width = (none, r')) :
    p.run r = .starved p r' := by
  rw [run_eq, h]

/-- **Reading can be taken up** where the input ended. -/
lemma run_append_of_starved {p p' : Phase} {r r' : BitReader} (h : p.run r = .starved p' r')
    (more : Bytes) : r'.input = [] ∧ p.run (r.append more) = p'.run (r'.append more) := by
  fun_induction run p r with
  | case1 p r r₁ h₁ =>
    simp only [Run.starved.injEq] at h
    obtain ⟨rfl, rfl⟩ := h
    obtain ⟨hinput, hread⟩ := BitReader.read_append_of_none h₁ more
    refine ⟨hinput, ?_⟩
    rw [run_eq p (r.append more), hread, ← run_eq]
  | case2 p r v r₁ h₁ p₁ hp ih =>
    obtain ⟨hinput, hrun⟩ := ih h
    refine ⟨hinput, ?_⟩
    rw [run_eq, BitReader.read_append_of_some h₁ more]
    simp only [hp, hrun]
  | case3 p r v r₁ h₁ s₁ m₁ hs => simp at h

/-- Reading that stops does not depend on later input. -/
lemma run_append_of_stopped {p : Phase} {r r' : BitReader} {s : Status} {m : Mode}
    (h : p.run r = .stopped s m r') (more : Bytes) :
    p.run (r.append more) = .stopped s m (r'.append more) := by
  fun_induction run p r with
  | case1 p r r₁ h₁ => simp at h
  | case2 p r v r₁ h₁ p₁ hp ih =>
    rw [run_eq, BitReader.read_append_of_some h₁ more]
    simp only [hp, ih h]
  | case3 p r v r₁ h₁ s₁ m₁ hs =>
    simp only [Run.stopped.injEq] at h
    obtain ⟨rfl, rfl, rfl⟩ := h
    rw [run_eq, BitReader.read_append_of_some h₁ more]
    simp only [hs]

end Phase

/-! ## Interrupted writing -/

namespace Output

/-- All that is left to be written of a block, and the failure in which writing it ends, if any. -/
def remainder (o : Output) : Bytes × Option Status :=
  if o.readable < o.used then (List.replicate o.pending o.char, some .dataError)
  else if o.used = o.readable then (List.replicate o.pending o.char, none)
  else
    match _h : o.startRun with
    | .error s => (List.replicate o.pending o.char, some s)
    | .ok o' => (List.replicate o.pending o.char ++ o'.remainder.1, o'.remainder.2)
termination_by o.readable - o.used
decreasing_by
  all_goals
    obtain ⟨hc, hu, -⟩ := startRun_eq_ok _h
    simp only [readable, hc] at *
    omega

/-- What is left of an output is the run, and all runs behind it. -/
lemma remainder_eq (o : Output) :
    o.remainder =
      if o.readable < o.used then (List.replicate o.pending o.char, some .dataError)
      else if o.used = o.readable then (List.replicate o.pending o.char, none)
      else
        match o.startRun with
        | .error s => (List.replicate o.pending o.char, some s)
        | .ok o' => (List.replicate o.pending o.char ++ o'.remainder.1, o'.remainder.2) := by
  rw [remainder]
  split
  · rfl
  split
  · rfl
  split <;> rename_i h <;> simp only [h]

/-- Reading a byte leaves the current run alone. -/
lemma next_setPending (o : Output) (k : Nat) :
    { o with pending := k }.next = o.next.map fun p => (p.1, { p.2 with pending := k }) := by
  simp only [next]
  by_cases h : maxBlock ≤ o.pos
  · simp only [if_pos h]
    rfl
  · simp only [if_neg h]
    cases o.cells[o.pos]? <;> rfl

/-- The next run does not depend on how much of the current one is left. -/
lemma startRun_setPending (o : Output) (k : Nat) :
    { o with pending := k }.startRun = o.startRun := by
  -- each byte that is read is the same; what was pending is replaced at the end
  simp only [startRun, bind, Except.bind, next_setPending]
  cases o.next with
  | error s => rfl
  | ok p₁ =>
    simp only [Except.map, next_setPending]
    refine ite_congr rfl (fun _ => rfl) fun _ => ite_congr rfl (fun _ => rfl) fun _ => ?_
    cases p₁.2.next with
    | error s => rfl
    | ok p₂ =>
      simp only [Except.map, next_setPending]
      refine ite_congr rfl (fun _ => rfl) fun _ => ite_congr rfl (fun _ => rfl) fun _ => ?_
      cases p₂.2.next with
      | error s => rfl
      | ok p₃ =>
        simp only [Except.map, next_setPending]
        refine ite_congr rfl (fun _ => rfl) fun _ => ite_congr rfl (fun _ => rfl) fun _ => ?_
        cases p₃.2.next with
        | error s => rfl
        | ok p₄ =>
          simp only [Except.map, next_setPending]
          cases p₄.2.next with
          | error s => rfl
          | ok p₅ => rfl

/-- The copies of the current run come first. -/
lemma remainder_setPending (o : Output) (m k : Nat) :
    { o with pending := m + k }.remainder =
      (List.replicate m o.char ++ { o with pending := k }.remainder.1,
        { o with pending := k }.remainder.2) := by
  rw [remainder_eq, remainder_eq { o with pending := k }]
  simp only [startRun_setPending, readable, List.replicate_add]
  split_ifs
  · rfl
  · rfl
  split
  · rfl
  · simp only [List.append_assoc]

/-- What a room makes of a block that is being written: it takes all that is left, or its own size
of it. -/
def Drained.Agrees (o : Output) (room : Nat) (written : Array UInt8) : Drained → Prop
  | .suspended o' written' =>
    ∃ x, written'.toList = written.toList ++ x ∧ x.length = room ∧
      o.remainder = (x ++ o'.remainder.1, o'.remainder.2)
  | .finished room' written' =>
    ∃ x, written'.toList = written.toList ++ x ∧ x.length + room' = room ∧ o.remainder = (x, none)
  | .corrupt s => ∃ x, o.remainder = (x, some s)

/-- **Writing can be taken up** where the room ended.

**Proof sketch.** Induction on the runs of the block. A run that fits is followed by what is left
after it; of a run that does not fit, the copies that were written come off the front
(`remainder_setPending`). -/
lemma remainder_of_drain (o : Output) (room : Nat) (written : Array UInt8) :
    (o.drain room written).Agrees o room written := by
  fun_induction drain o room written with
  | case1 o room written hroom =>
    refine ⟨List.replicate room o.char, by simp, by simp, ?_⟩
    have h := remainder_setPending o room (o.pending - room)
    rwa [Nat.add_sub_cancel' hroom.le] at h
  | case2 o room written hroom hlt => exact ⟨_, by rw [remainder_eq, if_pos hlt]⟩
  | case3 o room written hroom hlt heq =>
    refine ⟨List.replicate o.pending o.char, by simp,
      ?_, by rw [remainder_eq, if_neg hlt, if_pos heq]⟩
    rw [List.length_replicate]
    omega
  | case4 o room written hroom hlt hne s hs =>
    exact ⟨_, by rw [remainder_eq, if_neg hlt, if_neg hne, hs]⟩
  | case5 o room written hroom hlt hne o₁ h₁ ih =>
    have hrem : o.remainder =
        (List.replicate o.pending o.char ++ o₁.remainder.1, o₁.remainder.2) := by
      rw [remainder_eq, if_neg hlt, if_neg hne, h₁]
    cases hd : o₁.drain (room - o.pending) (written ++ Array.replicate o.pending o.char) with
    | suspended o' written' =>
      rw [hd] at ih
      obtain ⟨x, hx, hlen, hr⟩ := ih
      refine ⟨List.replicate o.pending o.char ++ x, by simp [hx], ?_, by simp [hrem, hr]⟩
      rw [List.length_append, List.length_replicate]
      omega
    | finished room' written' =>
      rw [hd] at ih
      obtain ⟨x, hx, hlen, hr⟩ := ih
      refine ⟨List.replicate o.pending o.char ++ x, by simp [hx], ?_, by rw [hrem, hr]⟩
      rw [List.length_append, List.length_replicate]
      omega
    | corrupt s =>
      rw [hd] at ih
      obtain ⟨x, hr⟩ := ih
      exact ⟨_, by rw [hrem, hr]⟩

end Output

/-! ## The verdict -/

/-- What a decoder makes of its input: how it ends, what it writes before, and where it stops. -/
structure Verdict where
  status : Status
  output : Bytes
  mode : Mode
  reader : BitReader

/-- A verdict with output before it. -/
def Verdict.after (x : Bytes) (v : Verdict) : Verdict :=
  { v with output := x ++ v.output }

/-- Nothing was put out before. -/
@[simp] lemma Verdict.after_nil (v : Verdict) : v.after [] = v := rfl

/-- What was put out before stands before all that was put out later. -/
lemma Verdict.after_after (x y : Bytes) (v : Verdict) : (v.after y).after x = v.after (x ++ y) := by
  simp [after]

/-- What a decoder in mode `m` makes of the input `r`, if it has room for everything. -/
def verdict (m : Mode) (r : BitReader) : Verdict :=
  match m with
  | .idle => ⟨.sequenceError, [], .idle, r⟩
  | .writing o =>
    match o.remainder with
    | (x, some s) => ⟨s, x, .idle, r⟩
    | (x, none) => (verdict (.reading .mark) r).after x
  | .reading p =>
    match _h : p.run r with
    | .starved p' r' => ⟨.ok, [], .reading p', r'⟩
    | .stopped .streamEnd m' r' => ⟨.streamEnd, [], m', r'⟩
    | .stopped .outOfBounds m' r' => ⟨.outOfBounds, [], m', r'⟩
    | .stopped _ (.writing o) r' => verdict (.writing o) r'
    | .stopped s m' r' => ⟨s, [], m', r'⟩
termination_by (r.bits, m.work)
decreasing_by
  · exact Prod.Lex.right _ (by simp only [Mode.work]; omega)
  · exact Prod.Lex.left _ _ (Phase.bits_lt_of_run_stopped _h)

/-- An idle stream is refused. -/
lemma verdict_idle (r : BitReader) : verdict .idle r = ⟨.sequenceError, [], .idle, r⟩ := by
  rw [verdict]

/-- A block that can be written completely is followed by the next one. -/
lemma verdict_writing_of_none {o : Output} {x : Bytes} (h : o.remainder = (x, none))
    (r : BitReader) : verdict (.writing o) r = (verdict (.reading .mark) r).after x := by
  rw [verdict, h]

/-- A block that cannot be written completely is the end. -/
lemma verdict_writing_of_some {o : Output} {x : Bytes} {s : Status} (h : o.remainder = (x, some s))
    (r : BitReader) : verdict (.writing o) r = ⟨s, x, .idle, r⟩ := by
  rw [verdict, h]

/-- Reading, without the proof that it uses up input. -/
lemma verdict_reading (p : Phase) (r : BitReader) :
    verdict (.reading p) r =
      match p.run r with
      | .starved p' r' => ⟨.ok, [], .reading p', r'⟩
      | .stopped .streamEnd m r' => ⟨.streamEnd, [], m, r'⟩
      | .stopped .outOfBounds m r' => ⟨.outOfBounds, [], m, r'⟩
      | .stopped _ (.writing o) r' => verdict (.writing o) r'
      | .stopped s m r' => ⟨s, [], m, r'⟩ := by
  conv_lhs => rw [verdict]
  split <;> rename_i h <;> simp only [h]

/-- What is made of the input depends on what reading makes of it. -/
lemma verdict_congr {p p' : Phase} {r r' : BitReader} (h : p.run r = p'.run r') :
    verdict (.reading p) r = verdict (.reading p') r' := by
  rw [verdict_reading, h, ← verdict_reading]

/-- A run that is starved gives what was put out so far. -/
lemma verdict_of_starved {p p' : Phase} {r r' : BitReader} (h : p.run r = .starved p' r') :
    verdict (.reading p) r = ⟨.ok, [], .reading p', r'⟩ := by
  rw [verdict_reading, h]

/-- A run that ends the stream ends it. -/
lemma verdict_of_streamEnd {p : Phase} {r r' : BitReader} {m : Mode}
    (h : p.run r = .stopped .streamEnd m r') :
    verdict (.reading p) r = ⟨.streamEnd, [], m, r'⟩ := by
  rw [verdict_reading, h]

/-- A run that comes to an output goes on with the output. -/
lemma verdict_of_writing {p : Phase} {r r' : BitReader} {s : Status} {o : Output}
    (h : p.run r = .stopped s (.writing o) r') (h₁ : s ≠ .streamEnd) (h₂ : s ≠ .outOfBounds) :
    verdict (.reading p) r = verdict (.writing o) r' := by
  rw [verdict_reading, h]
  cases s with
  | streamEnd => exact absurd rfl h₁
  | outOfBounds => exact absurd rfl h₂
  | _ => rfl

/-- A run that stops without an output stops with its own status. -/
lemma status_verdict_of_stopped {p : Phase} {r r' : BitReader} {s : Status} {m : Mode}
    (h : p.run r = .stopped s m r') (hm : s = .outOfBounds ∨ ∀ o, m ≠ .writing o) :
    (verdict (.reading p) r).status = s := by
  rw [verdict_reading, h]
  cases s <;> cases m <;> simp_all

/-! ## What stops a decoder -/

/-- How a call can end. -/
lemma Status.ok_or_streamEnd_or_isError (s : Status) : s = .ok ∨ s = .streamEnd ∨ s.isError := by
  cases s <;> simp [isError, code]

namespace Output

/-- The next byte fails with an error only. -/
lemma isError_of_next {o : Output} {s : Status} (h : o.next = .error s) : s.isError := by
  simp only [next] at h
  split_ifs at h
  · cases h; rfl
  · split at h <;> cases h
    rfl

/-- The next run fails with an error only. -/
lemma isError_of_startRun {o : Output} {s : Status} (h : o.startRun = .error s) : s.isError := by
  -- one of up to five bytes cannot be read
  simp only [startRun, bind, Except.bind] at h
  split at h
  · cases h
    exact isError_of_next ‹_›
  split_ifs at h
  split at h
  · cases h
    exact isError_of_next ‹_›
  split_ifs at h
  split at h
  · cases h
    exact isError_of_next ‹_›
  split_ifs at h
  split at h
  · cases h
    exact isError_of_next ‹_›
  split at h <;> cases h
  exact isError_of_next ‹_›

/-- An output is corrupt with an error only. -/
lemma isError_of_drain {o : Output} {room : Nat} {written : Array UInt8} {s : Status}
    (h : o.drain room written = .corrupt s) : s.isError := by
  fun_induction drain o room written with
  | case1 => simp at h
  | case2 => cases h; rfl
  | case3 => simp at h
  | case4 o room written hroom hlt hne s₁ hs =>
    cases h
    exact isError_of_startRun hs
  | case5 o room written hroom hlt hne o₁ h₁ ih => exact ih h

end Output

/-- The next code fails with an error only. -/
lemma Gathering.isError_of_nextCode {g g' : Gathering} {s : Status}
    (h : g.nextCode = .error (s, g')) : s.isError := by
  simp only [nextCode] at h
  split_ifs at h
  split at h
  · cases h; rfl
  · split at h <;> cases h
    rfl

/-- A digit fails with an error only. -/
lemma Gathering.isError_of_digit {g g' : Gathering} {s : Status} {d : Nat}
    (h : g.digit d = .error (s, g')) : s.isError := by
  simp only [digit] at h
  split_ifs at h
  cases h
  rfl

/-- A run that is put into the block fails with an error only. -/
lemma Gathering.isError_of_flush {g g' : Gathering} {s : Status}
    (h : g.flush = .error (s, g')) : s.isError := by
  simp only [flush] at h
  split at h
  · cases h; rfl
  · split_ifs at h
    cases h
    rfl

/-- A literal fails with an error only. -/
lemma Gathering.isError_of_literal {g g' : Gathering} {s : Status} {n : Nat}
    (h : g.literal n = .error (s, g')) : s.isError := by
  simp only [literal] at h
  split_ifs at h
  · cases h; rfl
  split at h
  · cases h; rfl
  split at h <;> cases h
  rfl

/-- A block is finished late with an error only. -/
lemma Gathering.isError_of_finish {g : Gathering} {s : Status} {o : Output}
    (h : g.finish = .late s o) : s.isError := by
  simp only [finish, link] at h
  split_ifs at h
  · split at h
    · cases h; rfl
    split at h
    · cases h; rfl
    split at h <;> cases h
    exact Output.isError_of_next ‹_›
  · cases h; rfl

namespace Phase

/-- How reading stops: at the end of the data, with a block to be written, or with a failure. -/
def Stops : Step → Prop
  | .wait _ => True
  | .stop s m => (s = .streamEnd ∧ m = .idle) ∨ (s = .ok ∧ ∃ o, m = .writing o) ∨ s.isError

/-- Waiting for a code stops in order. -/
lemma stops_awaitCode {place : Place} {retry : Gathering → Phase} {r : Gathering.Result}
    (h : ∀ s g, r = .error (s, g) → s.isError) : Stops (awaitCode place retry r) := by
  simp only [awaitCode]
  cases r with
  | error e => exact .inr (.inr (h e.1 e.2 rfl))
  | ok g =>
    simp only [Except.bind]
    split
    · trivial
    · rename_i hs
      exact .inr (.inr (Gathering.isError_of_nextCode hs))

/-- The end of a block stops in order. -/
lemma stops_endBlock (retry : Gathering → Phase) (g : Gathering) : Stops (endBlock retry g) := by
  simp only [endBlock]
  split
  · exact .inr (.inl ⟨rfl, _, rfl⟩)
  · exact .inr (.inr rfl)
  · rename_i hs
    exact .inr (.inr (Gathering.isError_of_finish hs))

/-- A symbol that is no digit stops in order. -/
lemma stops_acceptOther (retry : Gathering → Phase) (sym : Nat) (g : Gathering) :
    Stops (acceptOther retry sym g) := by
  simp only [acceptOther]
  split_ifs
  · exact stops_endBlock retry g
  · exact stops_awaitCode fun s g => Gathering.isError_of_literal

/-- A symbol stops in order. -/
lemma stops_acceptSymbol (place : Place) (retry : Gathering → Phase) (sym : Nat) (g : Gathering) :
    Stops (acceptSymbol place retry sym g) := by
  simp only [acceptSymbol]
  split_ifs
  · exact stops_awaitCode fun s g => Gathering.isError_of_digit
  · split
    · exact stops_acceptOther retry sym _
    · rename_i hs
      exact .inr (.inr (Gathering.isError_of_flush hs))
  · exact stops_endBlock retry g
  · exact stops_awaitCode fun s g => Gathering.isError_of_digit
  · exact stops_awaitCode fun s g => Gathering.isError_of_literal

/-- The end of the map stops in order. -/
lemma stops_endMap (retry : Phase) (row : UInt32) (used : List UInt8) :
    Stops (endMap retry row used) := by
  simp only [endMap]
  split_ifs
  exacts [.inr (.inr rfl), trivial]

/-- The end of the selectors stops in order. -/
lemma stops_endSelectors (row : UInt32) (used : Array UInt8) (count : Nat) (ranks : Array Nat) :
    Stops (endSelectors row used count ranks) := by
  simp only [endSelectors]
  split
  exacts [.inr (.inr rfl), trivial]

/-- The end of a table stops in order. -/
lemma stops_endTable (d : Draft) : Stops (endTable d) := by
  simp only [endTable]
  split_ifs
  exacts [trivial, stops_awaitCode fun s g h => by simp at h]

/-- The check of a length stops in order. -/
lemma stops_checkLength (retry : Phase) (d : Draft) (length : Int) :
    Stops (checkLength retry d length) := by
  simp only [checkLength]
  split_ifs
  · exact .inr (.inr rfl)
  · trivial

/-- A field lets reading stop in one of three ways. -/
lemma stops_accept (p : Phase) (v : Nat) : Stops (p.accept v) := by
  cases p with
  | mark =>
    simp only [accept]
    split_ifs
    exacts [.inl ⟨rfl, rfl⟩, trivial, .inr (.inr rfl)]
  | origin left value =>
    cases left with
    | zero =>
      simp only [accept]
      split_ifs
      exacts [.inr (.inr rfl), trivial]
    | succ left => trivial
  | rangeMap row todo found =>
    cases todo with
    | nil => exact .inr (.inr rfl)
    | cons r todo =>
      cases todo with
      | cons r' todo => trivial
      | nil =>
        simp only [accept, List.isEmpty_nil, if_true, endRanges]
        split
        exacts [.inr (.inr rfl), trivial]
  | byteMap row todo found =>
    cases todo with
    | nil => exact .inr (.inr rfl)
    | cons b todo =>
      cases todo with
      | cons b' todo => trivial
      | nil => exact stops_endMap _ row _
  | tableCount row used =>
    simp only [accept]
    split_ifs
    exacts [.inr (.inr rfl), trivial]
  | selectorCount row used count =>
    simp only [accept]
    split_ifs
    exacts [.inr (.inr rfl), trivial]
  | selector row used count left ones ranks =>
    simp only [accept]
    split_ifs
    exacts [stops_endSelectors .., stops_endSelectors .., trivial, trivial, .inr (.inr rfl),
      trivial]
  | firstLength d => exact stops_checkLength _ d v
  | lengthChanges d length =>
    simp only [accept]
    split_ifs
    exacts [trivial, stops_endTable _, trivial]
  | lengthShrinks d length => exact stops_checkLength _ d _
  | code place more length value g =>
    simp only [accept, acceptCode]
    split
    exacts [stops_acceptSymbol .., trivial, .inr (.inr rfl), .inr (.inr rfl)]

/-- Reading stops in one of three ways. -/
lemma stops_run {p : Phase} {r r' : BitReader} {s : Status} {m : Mode}
    (h : p.run r = .stopped s m r') :
    (s = .streamEnd ∧ m = .idle) ∨ (s = .ok ∧ ∃ o, m = .writing o) ∨ s.isError := by
  fun_induction run p r with
  | case1 p r r₁ h₁ => simp at h
  | case2 p r v r₁ h₁ p₁ hp ih => exact ih h
  | case3 p r v r₁ h₁ s₁ m₁ hs =>
    simp only [Run.stopped.injEq] at h
    obtain ⟨rfl, rfl, -⟩ := h
    have hv := stops_accept p v
    rwa [hs] at hv

end Phase

/-! ## Calls -/

namespace Stream

/-- The input is used up, and nothing can be done without more. -/
def Starved (s : Stream) : Prop :=
  s.reader.input = [] ∧ verdict s.mode s.reader = ⟨.ok, [], s.mode, s.reader⟩

/-- What a call that wrote `x` did of all that is to be done, when `more` is the input still to
come. -/
def DidPart (s : Stream) (more x : Bytes) (c : Call) : Prop :=
  match c.status with
  | .ok =>
    verdict s.mode (s.reader.append more) =
        (verdict c.stream.mode (c.stream.reader.append more)).after x ∧
      x.length + c.stream.room = s.room ∧ (c.stream.room = 0 ∨ c.stream.Starved)
  | .streamEnd =>
    verdict s.mode (s.reader.append more) =
        ⟨.streamEnd, x, c.stream.mode, c.stream.reader.append more⟩ ∧ c.stream.mode = .idle
  | st => (verdict s.mode (s.reader.append more)).status = st

/-- A call that ends in the error of its verdict has done its part. -/
lemma didPart_of_isError {s : Stream} {more x : Bytes} {c : Call} (hc : c.status.isError)
    (h : (verdict s.mode (s.reader.append more)).status = c.status) : s.DidPart more x c := by
  simp only [DidPart]
  split <;> rename_i hst <;> simp_all [Status.isError, Status.code]

/-- What was done before a call that went on from `t` counts, too. -/
lemma DidPart.after {s t : Stream} {more x y : Bytes} {c : Call} (h : t.DidPart more y c)
    (hv : verdict s.mode (s.reader.append more) = (verdict t.mode (t.reader.append more)).after x)
    (hroom : x.length + t.room = s.room) : s.DidPart more (x ++ y) c := by
  revert h
  simp only [DidPart]
  split
  · rintro ⟨h, hlen, hend⟩
    refine ⟨by rw [hv, h, Verdict.after_after], ?_, hend⟩
    rw [List.length_append]
    omega
  · rintro ⟨h, hend⟩
    exact ⟨by rw [hv, h]; rfl, hend⟩
  · intro h
    rw [hv, ← h]
    rfl

/-- **A call does a part of what is to be done**: it writes the beginning of what is to be written,
up to its room, and leaves the rest to later calls; or it ends as all of it ends.

**Proof sketch.** Induction along the call. A block that is written to its end is followed by the
next one, and `Output.remainder_of_drain` tells what was written; a block that is read to its end is
written next. In each other case the call returns. -/
theorem verdict_loop (s : Stream) (written : Array UInt8) (more : Bytes) :
    ∃ x, (s.loop written).written.toList = written.toList ++ x ∧
      s.DidPart more x (s.loop written) := by
  fun_induction loop s written with
  | case1 s written hm =>
    refine ⟨[], by simp, didPart_of_isError rfl ?_⟩
    rw [hm, verdict_idle]
  | case2 s written o hm st hd =>
    have hpart := Output.remainder_of_drain o s.room #[]
    rw [hd] at hpart
    obtain ⟨x, hx⟩ := hpart
    refine ⟨[], by simp, didPart_of_isError (Output.isError_of_drain hd) ?_⟩
    rw [hm, verdict_writing_of_some hx]
  | case3 s written o hm o₁ out hd =>
    have hpart := Output.remainder_of_drain o s.room #[]
    rw [hd] at hpart
    obtain ⟨x, hx, hlen, hr⟩ := hpart
    refine ⟨x, by simp_all, ?_, by simpa using hlen, .inl rfl⟩
    rw [hm]
    cases h₁ : o₁.remainder with
    | mk y e =>
      rw [h₁] at hr
      cases e with
      | none =>
        rw [verdict_writing_of_none hr, verdict_writing_of_none h₁, Verdict.after_after]
      | some st =>
        rw [verdict_writing_of_some hr, verdict_writing_of_some h₁]
        rfl
  | case4 s written o hm room out hd ih =>
    have hpart := Output.remainder_of_drain o s.room #[]
    rw [hd] at hpart
    obtain ⟨x, hx, hlen, hr⟩ := hpart
    obtain ⟨y, hy, hdid⟩ := ih
    refine ⟨x ++ y, by simp_all, hdid.after ?_ hlen⟩
    rw [hm, verdict_writing_of_none hr]
  | case5 s written p hm p₁ r₁ hr =>
    obtain ⟨hinput, hrun⟩ := Phase.run_append_of_starved hr more
    have hidle := (Phase.run_append_of_starved hr []).2
    rw [BitReader.append_nil, BitReader.append_nil, hr] at hidle
    refine ⟨[], by simp, ?_, by simp, .inr ⟨hinput, verdict_of_starved hidle.symm⟩⟩
    rw [hm, verdict_congr hrun]
    rfl
  | case6 s written p hm m₁ r₁ hr =>
    have hmode : m₁ = .idle := by
      rcases Phase.stops_run hr with h | h | h
      · exact h.2
      · simp at h
      · simp [Status.isError, Status.code] at h
    refine ⟨[], by simp, ?_, hmode⟩
    rw [hm, verdict_of_streamEnd (Phase.run_append_of_stopped hr more)]
  | case7 s written p hm m₁ r₁ hr =>
    refine ⟨[], by simp, didPart_of_isError rfl ?_⟩
    rw [hm, status_verdict_of_stopped (Phase.run_append_of_stopped hr more) (.inl rfl)]
  | case8 s written p hm st r₁ hst hob o₁ hr _ ih =>
    obtain ⟨y, hy, hdid⟩ := ih
    refine ⟨y, hy, hdid.after (x := []) ?_ (by simp)⟩
    rw [hm, verdict_of_writing (Phase.run_append_of_stopped hr more) hst hob]
    rfl
  | case9 s written p hm st r₁ hst hob m₁ hr hnw =>
    have hm₁ : ∀ o, m₁ ≠ .writing o := by
      rintro o rfl
      exact hnw o hr rfl HEq.rfl
    have herr : st.isError := by
      rcases Phase.stops_run hr with h | ⟨-, o, h⟩ | h
      · exact absurd h.1 hst
      · exact absurd h (hm₁ o)
      · exact h
    refine ⟨[], by simp, didPart_of_isError herr ?_⟩
    rw [hm, status_verdict_of_stopped (Phase.run_append_of_stopped hr more) (.inr hm₁)]

/-- A call that returns without an end leaves the rest to later calls. -/
lemma verdict_of_call_ok {s : Stream} (h : s.call.status = .ok) (more : Bytes) :
    verdict s.mode (s.reader.append more) =
      (verdict s.call.stream.mode (s.call.stream.reader.append more)).after
        s.call.written.toList := by
  obtain ⟨x, hx, hpart⟩ := verdict_loop s #[] more
  simp only [DidPart, call] at h hpart hx ⊢
  rw [h] at hpart
  rw [hx]
  exact hpart.1

/-- A call that returns without an end has used up its room, or all of its input. -/
lemma room_of_call_ok {s : Stream} (h : s.call.status = .ok) :
    s.call.written.size + s.call.stream.room = s.room ∧
      (s.call.stream.room = 0 ∨ s.call.stream.Starved) := by
  obtain ⟨x, hx, hpart⟩ := verdict_loop s #[] []
  simp only [DidPart, call] at h hpart hx ⊢
  rw [h] at hpart
  rw [← Array.length_toList, hx]
  exact hpart.2

/-- A call that returns with the end of the data has written what is left. -/
lemma verdict_of_call_streamEnd {s : Stream} (h : s.call.status = .streamEnd) (more : Bytes) :
    verdict s.mode (s.reader.append more) =
        ⟨.streamEnd, s.call.written.toList, s.call.stream.mode, s.call.stream.reader.append more⟩ ∧
      s.call.stream.mode = .idle := by
  obtain ⟨x, hx, hpart⟩ := verdict_loop s #[] more
  simp only [DidPart, call] at h hpart hx ⊢
  rw [h] at hpart
  rw [hx]
  exact hpart

/-- A call fails as all of its input fails. -/
lemma verdict_of_call_isError {s : Stream} (h : s.call.status.isError) (more : Bytes) :
    (verdict s.mode (s.reader.append more)).status = s.call.status := by
  obtain ⟨x, -, hpart⟩ := verdict_loop s #[] more
  simp only [DidPart, call] at h hpart ⊢
  split at hpart <;> rename_i hst
  · simp [hst, Status.isError, Status.code] at h
  · simp [hst, Status.isError, Status.code] at h
  · exact hpart

end Stream

/-- Nothing follows the end of the data. -/
lemma decompressFrom_idle {s : Stream} (hs : s.mode = .idle) (out : Array UInt8) :
    decompressFrom s out = out := by
  have hcall : ((s.setRoom bufferSize).call).status = .sequenceError := by
    rw [Stream.call, Stream.loop]
    split <;> simp_all [Stream.setRoom]
  rw [decompressFrom]
  simp [hcall, Status.isError, Status.code]

/-- **Decoding at once writes all there is**, provided that the input contains the end of the data.

**Proof sketch.** Induction along the calls. A call that writes nothing and does not end has room
left, so it has used up the input, and the end of the data is not there. -/
theorem decompressFrom_eq (s : Stream) (out : Array UInt8)
    (h : (verdict s.mode s.reader).status = .streamEnd) :
    (decompressFrom s out).toList = out.toList ++ (verdict s.mode s.reader).output := by
  fun_induction decompressFrom s out with
  | case1 s out c herr =>
    have hv := Stream.verdict_of_call_isError herr []
    rw [BitReader.append_nil] at hv
    have hst : c.status = .streamEnd := hv.symm.trans h
    simp [hst, Status.isError, Status.code] at herr
  | case2 s out c herr hw =>
    rcases Status.ok_or_streamEnd_or_isError c.status with hst | hst | hst
    · have hv := Stream.verdict_of_call_ok hst []
      obtain ⟨hroom, hend⟩ := Stream.room_of_call_ok hst
      have hstarved : c.stream.Starved := by
        refine hend.resolve_left fun h₀ => ?_
        have h₁ : c.written.size + c.stream.room = bufferSize := hroom
        have h₂ : c.stream.room = 0 := h₀
        simp [hw, h₂, bufferSize] at h₁
      rw [BitReader.append_nil, BitReader.append_nil, hstarved.2] at hv
      have hok : (verdict s.mode s.reader).status = .ok := congrArg Verdict.status hv
      simp [hok] at h
    · have hv := (Stream.verdict_of_call_streamEnd hst []).1
      rw [BitReader.append_nil] at hv
      have hnil : (verdict s.mode s.reader).output = c.written.toList := congrArg Verdict.output hv
      simp [hnil, hw]
    · exact absurd hst herr
  | case3 s out c herr hw ih =>
    rcases Status.ok_or_streamEnd_or_isError c.status with hst | hst | hst
    · have hv := Stream.verdict_of_call_ok hst []
      rw [BitReader.append_nil, BitReader.append_nil] at hv
      have hs : verdict s.mode s.reader =
        (verdict c.stream.mode c.stream.reader).after c.written.toList := hv
      rw [hs] at h ⊢
      rw [ih h, Array.toList_append, List.append_assoc]
      rfl
    · obtain ⟨hv, hidle⟩ := Stream.verdict_of_call_streamEnd hst []
      rw [BitReader.append_nil] at hv
      have hout : (verdict s.mode s.reader).output = c.written.toList := congrArg Verdict.output hv
      rw [decompressFrom_idle hidle, hout, Array.toList_append]
    · exact absurd hst herr

/-- **Decoding at once writes a beginning of all there is**, whatever the input and what follows
it. -/
theorem decompressFrom_prefix (s : Stream) (out : Array UInt8) (more : Bytes) :
    (decompressFrom s out).toList <+:
      out.toList ++ (verdict s.mode (s.reader.append more)).output := by
  fun_induction decompressFrom s out with
  | case1 s out c herr => exact List.prefix_append _ _
  | case2 s out c herr hw => exact List.prefix_append _ _
  | case3 s out c herr hw ih =>
    rcases Status.ok_or_streamEnd_or_isError c.status with hst | hst | hst
    · have hv : verdict s.mode (s.reader.append more) =
          (verdict c.stream.mode (c.stream.reader.append more)).after c.written.toList :=
        Stream.verdict_of_call_ok hst more
      rw [Array.toList_append, List.append_assoc] at ih
      rw [hv]
      exact ih
    · obtain ⟨hv, hidle⟩ := Stream.verdict_of_call_streamEnd hst more
      have hout : (verdict s.mode (s.reader.append more)).output = c.written.toList :=
        congrArg Verdict.output hv
      have hall : out.toList ++ (verdict s.mode (s.reader.append more)).output =
          (decompressFrom c.stream (out ++ c.written)).toList := by
        rw [decompressFrom_idle hidle, hout, Array.toList_append]
      exact hall ▸ List.prefix_rfl
    · exact absurd hst herr

/-- More input does not change what is decoded, but only how far decoding goes. If the data turn out
to be invalid, it may go less far, since what the last call wrote is dropped. -/
theorem decompress_append (data more : Bytes) :
    decompress data <+: decompress (data ++ more) ∨
      decompress (data ++ more) <+: decompress data := by
  have hdata := decompressFrom_prefix (Stream.setInput {} data) #[] more
  have hall := decompressFrom_prefix (Stream.setInput {} (data ++ more)) #[] []
  rw [BitReader.append_nil] at hall
  exact List.prefix_or_prefix_of_prefix hdata hall

end Nsis.Bzip2
