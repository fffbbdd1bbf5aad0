import Mathlib.Data.List.Basic
import Mathlib.Logic.Relation
import Mathlib.Tactic.SplitIfs
import Nsis.Bzip2.Stream
import Nsis.Proofs.Bzip2.Verdict

/-!
# Calls, tick by tick

A call reads field after field and writes run after run. One of these is a tick. A call goes through
the ticks of its decoder until one of them lets it return.

## Main definitions

* `Nsis.Bzip2.Stream.tick` — one field is read, or one run is written.
* `Nsis.Bzip2.Stream.Passes`, `Nsis.Bzip2.Stream.after` — the decoders that a call goes through.
* `Nsis.Bzip2.Stream.Lives` — the decoders of which no call has failed.

## Main results

* `Nsis.Bzip2.Stream.goesOn_cases` — all that a tick can do.
* `Nsis.Bzip2.Stream.exists_passes` — a call returns what its last tick returns.
-/

namespace Nsis.Bzip2

/-! ## What was written does not matter -/

namespace Output

/-- How writing stopped, without what was written. -/
def Drained.bare : Drained → Drained
  | .suspended o _ => .suspended o #[]
  | .finished room _ => .finished room #[]
  | .corrupt s => .corrupt s

/-- What the output does does not depend on what was written before. -/
lemma bare_drain (o : Output) (room : Nat) (written written' : Array UInt8) :
    (o.drain room written).bare = (o.drain room written').bare := by
  fun_induction drain o room written generalizing written' with
  | case1 o room written hroom =>
    rw [drain, if_pos hroom]
    rfl
  | case2 o room written hroom hlt =>
    rw [drain, if_neg hroom, if_pos hlt]
  | case3 o room written hroom hlt heq =>
    rw [drain, if_neg hroom, if_neg hlt, if_pos heq]
    rfl
  | case4 o room written hroom hlt hne s hs =>
    rw [drain, if_neg hroom, if_neg hlt, if_neg hne]
    split <;> simp_all
  | case5 o room written hroom hlt hne o₁ h₁ ih =>
    rw [ih (written' ++ Array.replicate o.pending o.char)]
    conv_rhs => rw [drain, if_neg hroom, if_neg hlt, if_neg hne]
    split <;> simp_all

end Output

namespace Stream

/-- One step of a call. -/
inductive Tick where
  /-- The call goes on with a decoder. -/
  | goesOn (s : Stream)
  /-- The call returns. -/
  | returns (st : Status) (s : Stream)

/-- The status that a tick returns, if it does. -/
def Tick.status? : Tick → Option Status
  | goesOn _ => none
  | returns st _ => some st

/-- A tick with a status returns this status. -/
lemma Tick.returns_of_status? {k : Tick} {st : Status} (h : k.status? = some st) :
    ∃ s, k = .returns st s := by
  cases k with
  | goesOn s => simp [status?] at h
  | returns st' s =>
    obtain rfl : st' = st := by simpa [status?] using h
    exact ⟨s, rfl⟩

/-- Read one field, or write one run. -/
def tick (s : Stream) : Tick :=
  match s.mode with
  | .idle => .returns .sequenceError s
  | .writing o =>
    if s.room < o.pending then
      .returns .ok { s with mode := .writing { o with pending := o.pending - s.room }, room := 0 }
    else if o.readable < o.used then .returns .dataError s
    else if o.used = o.readable then
      .goesOn { s with mode := .reading .mark, room := s.room - o.pending }
    else
      match o.startRun with
      | .error st => .returns st s
      | .ok o' => .goesOn { s with mode := .writing o', room := s.room - o.pending }
  | .reading p =>
    match s.reader.read p.width with
    | (none, r) => .returns .ok { s with reader := r }
    | (some v, r) =>
      match p.accept v with
      | .wait p' => .goesOn { s with mode := .reading p', reader := r }
      | .stop .streamEnd m => .returns .streamEnd { s with mode := m, reader := r }
      | .stop .outOfBounds m => .returns .outOfBounds { s with mode := m, reader := r }
      | .stop _ (.writing o) => .goesOn { s with mode := .writing o, reader := r }
      | .stop st m => .returns st { s with mode := m, reader := r }

/-- The decoders that a call goes through. -/
def Passes : Stream → Stream → Prop :=
  Relation.ReflTransGen fun s t => s.tick = .goesOn t

/-- The decoder that a call has become after some ticks, unless it has returned before. -/
def after (s : Stream) : Nat → Stream
  | 0 => s
  | n + 1 =>
    match s.tick with
    | .goesOn t => t.after n
    | .returns _ _ => s

/-- A call goes through the decoder that it has become after some ticks. -/
lemma passes_after (s : Stream) (n : Nat) : s.Passes (s.after n) := by
  induction n generalizing s with
  | zero => exact .refl
  | succ n ih =>
    rw [after]
    split
    · rename_i t htick
      exact .head htick (ih t)
    · exact .refl

/-- The decoders of which no call has failed, whatever they were fed with. -/
inductive Lives : Stream → Prop
  | start : Lives {}
  | feed {s : Stream} (input : Bytes) (h : Lives s) : Lives (s.setInput input)
  | offer {s : Stream} (room : Nat) (h : Lives s) : Lives (s.setRoom room)
  | call {s : Stream} (h : Lives s) (hok : ¬ s.call.status.isError) : Lives s.call.stream

/-! ## One tick of a call -/

/-- A decoder that is idle refuses to go on. -/
lemma loop_of_idle {s : Stream} (h : s.mode = .idle) (written : Array UInt8) :
    s.loop written = ⟨.sequenceError, written, s⟩ := by
  obtain ⟨mode, reader, room⟩ := s
  subst h
  rw [loop]

/-- What a call makes of the end of writing. -/
def afterDrain (s : Stream) (written : Array UInt8) : Output.Drained → Call
  | .corrupt st => ⟨st, written, s⟩
  | .suspended o out => ⟨.ok, written ++ out, { s with mode := .writing o, room := 0 }⟩
  | .finished room out => loop { s with mode := .reading .mark, room := room } (written ++ out)

/-- A decoder that writes goes on behind what is put out. -/
lemma loop_of_writing {s : Stream} {o : Output} (h : s.mode = .writing o) (written : Array UInt8) :
    s.loop written = s.afterDrain written (o.drain s.room #[]) := by
  obtain ⟨mode, reader, room⟩ := s
  subst h
  rw [loop]
  rfl

/-- A decoder that reads goes on until it is starved or stops. -/
lemma loop_of_reading {s : Stream} {p : Phase} (h : s.mode = .reading p) (written : Array UInt8) :
    s.loop written =
      match p.run s.reader with
      | .starved p r => ⟨.ok, written, { s with mode := .reading p, reader := r }⟩
      | .stopped .streamEnd m r => ⟨.streamEnd, written, { s with mode := m, reader := r }⟩
      | .stopped .outOfBounds m r => ⟨.outOfBounds, written, { s with mode := m, reader := r }⟩
      | .stopped _ (.writing o) r => loop { s with mode := .writing o, reader := r } written
      | .stopped st m r => ⟨st, written, { s with mode := m, reader := r }⟩ := by
  fun_cases loop s written <;> simp_all

/-- How a call ends does not depend on what was written before. -/
lemma loop_written (s : Stream) (written written' : Array UInt8) :
    (s.loop written).status = (s.loop written').status ∧
      (s.loop written).stream = (s.loop written').stream := by
  fun_induction loop s written generalizing written' with
  | case1 s written hm => simp [loop_of_idle hm]
  | case2 s written o hm st hd => simp [loop_of_writing hm, hd, afterDrain]
  | case3 s written o hm o₁ out hd => simp [loop_of_writing hm, hd, afterDrain]
  | case4 s written o hm room out hd ih =>
    rw [loop_of_writing hm, hd]
    exact ih _
  | case5 s written p hm p₁ r₁ hr => simp [loop_of_reading hm, hr]
  | case6 s written p hm m₁ r₁ hr => simp [loop_of_reading hm, hr]
  | case7 s written p hm m₁ r₁ hr => simp [loop_of_reading hm, hr]
  | case8 s written p hm st r₁ hst hob o₁ hr _ ih =>
    obtain ⟨h₁, h₂⟩ := ih written'
    rw [loop_of_reading hm, hr]
    cases st <;> simp_all
  | case9 s written p hm st r₁ hst hob m₁ hr hnw =>
    rw [loop_of_reading hm, hr]
    cases st <;> cases m₁ <;> simp_all

/-- A call returns what its only tick returns. -/
lemma loop_of_returns {s u : Stream} {st : Status} (h : s.tick = .returns st u)
    (written : Array UInt8) : (s.loop written).status = st ∧ (s.loop written).stream = u := by
  unfold tick at h
  split at h
  · rename_i hm
    cases h
    rw [loop_of_idle hm]
    exact ⟨rfl, rfl⟩
  · rename_i o hm
    rw [loop_of_writing hm, Output.drain]
    split_ifs at h ⊢ with hroom hlt heq
    · cases h
      exact ⟨rfl, rfl⟩
    · cases h
      exact ⟨rfl, rfl⟩
    · cases hrun : o.startRun with
      | error st' =>
        simp only [hrun, Tick.returns.injEq] at h
        obtain ⟨rfl, rfl⟩ := h
        split <;> simp_all [afterDrain]
      | ok o' => simp [hrun] at h
  · rename_i p hm
    rw [loop_of_reading hm]
    split at h
    · rename_i r hread
      simp_all [Phase.run_of_none hread]
    · rename_i v r hread
      cases haccept : p.accept v with
      | wait p' => simp [haccept] at h
      | stop st' m =>
        rw [Phase.run_of_stop hread haccept]
        cases st' <;> cases m <;> simp_all

/-- How two calls end: with one status, and with one decoder if they did not fail. -/
def SameEnd (c d : Call) : Prop :=
  c.status = d.status ∧ (¬ c.status.isError → c.stream = d.stream)

/-- What was written does not matter after writing, either. -/
lemma sameEnd_afterDrain {s t : Stream} (hreader : s.reader = t.reader) {written : Array UInt8}
    {d d' : Output.Drained} (h : d.bare = d'.bare) (herror : ∀ st, d = .corrupt st → st.isError) :
    SameEnd (s.afterDrain written d) (t.afterDrain written d') := by
  cases d with
  | suspended o out =>
    cases d' with
    | suspended o' out' => simp_all [afterDrain, SameEnd, Output.Drained.bare]
    | _ => simp [Output.Drained.bare] at h
  | finished room out =>
    cases d' with
    | finished room' out' =>
      obtain rfl : room = room' := by simpa [Output.Drained.bare] using h
      obtain ⟨h₁, h₂⟩ := loop_written { s with mode := .reading .mark, room := room }
        (written ++ out) (written ++ out')
      rw [afterDrain, afterDrain, ← hreader]
      exact ⟨h₁, fun _ => h₂⟩
    | _ => simp [Output.Drained.bare] at h
  | corrupt st =>
    cases d' with
    | corrupt st' =>
      obtain rfl : st = st' := by simpa [Output.Drained.bare] using h
      exact ⟨rfl, fun hok => absurd (herror st rfl) hok⟩
    | _ => simp [Output.Drained.bare] at h

/-- What a tick that goes on has done: the last run of a block was written, or another run, or a
field was read within a block, or the last field of one. -/
lemma goesOn_cases {s t : Stream} (h : s.tick = .goesOn t) :
    (∃ o, s.mode = .writing o ∧ ¬ s.room < o.pending ∧ o.used = o.readable ∧
        t = { s with mode := .reading .mark, room := s.room - o.pending }) ∨
      (∃ o o', s.mode = .writing o ∧ ¬ s.room < o.pending ∧ o.used < o.readable ∧
        o.startRun = .ok o' ∧ t = { s with mode := .writing o', room := s.room - o.pending }) ∨
      (∃ p v r p', s.mode = .reading p ∧ s.reader.read p.width = (some v, r) ∧
        p.accept v = .wait p' ∧ t = { s with mode := .reading p', reader := r }) ∨
      ∃ p v r st o, s.mode = .reading p ∧ s.reader.read p.width = (some v, r) ∧
        p.accept v = .stop st (.writing o) ∧ st ≠ .streamEnd ∧ st ≠ .outOfBounds ∧
        t = { s with mode := .writing o, reader := r } := by
  unfold tick at h
  split at h
  · cases h
  · rename_i o hm
    split_ifs at h with hroom hlt heq
    · exact .inl ⟨o, hm, hroom, heq, by cases h; rfl⟩
    · cases hrun : o.startRun with
      | error st => simp [hrun] at h
      | ok o' =>
        simp only [hrun, Tick.goesOn.injEq] at h
        exact .inr (.inl ⟨o, o', hm, hroom, by omega, hrun, h.symm⟩)
  · rename_i p hm
    split at h
    · cases h
    · rename_i v r hread
      cases haccept : p.accept v with
      | wait p' =>
        simp only [haccept, Tick.goesOn.injEq] at h
        exact .inr (.inr (.inl ⟨p, v, r, p', hm, hread, haccept, h.symm⟩))
      | stop st m =>
        refine .inr (.inr (.inr ?_))
        cases st <;> cases m <;> simp_all

/-- A call goes on as a call from its next tick. -/
lemma sameEnd_of_goesOn {s t : Stream} (h : s.tick = .goesOn t) (written : Array UInt8) :
    SameEnd (s.loop written) (t.loop written) := by
  rcases goesOn_cases h with ⟨o, hm, hroom, heq, rfl⟩ | ⟨o, o', hm, hroom, hlt, hrun, rfl⟩ |
    ⟨p, v, r, p', hm, hread, haccept, rfl⟩ | ⟨p, v, r, st, o, hm, hread, haccept, hend, hob, rfl⟩
  · rw [loop_of_writing hm, Output.drain, if_neg hroom, if_neg (by omega), if_pos heq]
    obtain ⟨h₁, h₂⟩ := loop_written { s with mode := .reading .mark, room := s.room - o.pending }
      (written ++ (#[] ++ Array.replicate o.pending o.char)) written
    exact ⟨h₁, fun _ => h₂⟩
  · rw [loop_of_writing hm, loop_of_writing rfl, Output.drain, if_neg hroom, if_neg (by omega),
      if_neg (by omega)]
    split
    · simp_all
    · rename_i o₁ h₁
      obtain rfl : o' = o₁ := by simpa [hrun] using h₁
      apply sameEnd_afterDrain
      · rfl
      · exact Output.bare_drain _ _ _ _
      · exact fun st => Output.isError_of_drain
  · rw [loop_of_reading hm, Phase.run_of_wait hread haccept, loop_of_reading rfl]
    exact ⟨rfl, fun _ => rfl⟩
  · rw [loop_of_reading hm, Phase.run_of_stop hread haccept]
    cases st <;> simp_all [SameEnd]

/-! ## All ticks of a call -/

/-- A tick makes progress. -/
lemma before_of_goesOn {s t : Stream} (h : s.tick = .goesOn t) : t.Before s := by
  have hread : ∀ {p : Phase} {v : Nat} {r : BitReader}, s.reader.read p.width = (some v, r) →
      r.bits < s.reader.bits := fun {p v r} hread => by
    have hbits := BitReader.bits_of_read_some hread
    have hwidth := p.width_pos
    omega
  rcases goesOn_cases h with ⟨o, hm, hroom, heq, rfl⟩ | ⟨o, o', hm, hroom, hlt, hrun, rfl⟩ |
    ⟨p, v, r, p', hm, hr, haccept, rfl⟩ | ⟨p, v, r, st, o, hm, hr, haccept, hend, hob, rfl⟩
  · refine .inr ⟨rfl, ?_⟩
    rw [hm]
    simp only [Mode.work]
    omega
  · obtain ⟨hcells, hused, hpending⟩ := Output.startRun_eq_ok hrun
    refine .inr ⟨rfl, ?_⟩
    rw [hm]
    simp only [Mode.work, Output.work, Output.readable, hcells] at hlt ⊢
    omega
  · exact .inl (hread hr)
  · exact .inl (hread hr)

/-- The order in which a decoder makes progress is well founded. -/
lemma wellFounded_before : WellFounded Before := by
  refine Subrelation.wf (r := InvImage (Prod.Lex (· < ·) (· < ·))
    fun s : Stream => (s.reader.bits, s.mode.work)) (fun {s t} h => ?_)
    (InvImage.wf _ (Prod.lex Nat.lt_wfRel Nat.lt_wfRel).wf)
  rcases h with h | ⟨h₁, h₂⟩
  · exact .left _ _ h
  · simp only [InvImage, h₁]
    exact .right _ h₂

/-- **A call returns what its last tick returns.** -/
theorem exists_passes (s : Stream) :
    ∃ t u, s.Passes t ∧ t.tick = .returns s.call.status u ∧
      (¬ s.call.status.isError → u = s.call.stream) := by
  induction s using wellFounded_before.induction with
  | _ s ih =>
    cases h : s.tick with
    | returns st u =>
      obtain ⟨h₁, h₂⟩ := loop_of_returns h #[]
      exact ⟨s, u, .refl, by rw [h, call, h₁], fun _ => h₂.symm⟩
    | goesOn t =>
      obtain ⟨h₁, h₂⟩ := sameEnd_of_goesOn h #[]
      obtain ⟨t', u, hpasses, htick, hu⟩ := ih t (before_of_goesOn h)
      simp only [call] at htick hu ⊢
      refine ⟨t', u, .head h hpasses, by rw [htick, h₁], fun hok => ?_⟩
      rw [h₂ hok]
      exact hu (h₁ ▸ hok)

/-- All decoders that a call goes through lead to its status. -/
lemma status_call_of_passes {s t : Stream} (h : s.Passes t) : s.call.status = t.call.status := by
  induction h with
  | refl => rfl
  | tail _ htick ih => exact ih.trans (sameEnd_of_goesOn htick #[]).1

end Stream

end Nsis.Bzip2
