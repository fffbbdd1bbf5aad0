import Mathlib.Data.List.Basic
import Nsis.Proofs.Bzip2.Verdict

/-!
# Decoding in pieces

A caller feeds a decoder with chunks of its data and offers it room for the output, in pieces of any
size, and calls it in between. However the pieces are chosen, what comes of the data is the same:
they end with the same status, and unless they are invalid, with the same output and at the same
place.

## Main definitions

* `Nsis.Bzip2.Progress` — how far a caller got.
* `Nsis.Bzip2.Reaches` — what can be reached by feeding, offering and calling.
* `Nsis.Bzip2.Progress.Ends` — the next call is the last one.

## Main results

* `Nsis.Bzip2.Reaches.verdict_eq` — what was written, and what is still to be made of the data, is
  what is to be made of the data as a whole.
* `Nsis.Bzip2.ending_independent_of_pieces` — decoding does not depend on the pieces.
-/

namespace Nsis.Bzip2

/-- How far a caller got: the decoder, the data it was fed with, and what its calls wrote. -/
structure Progress where
  stream : Stream := {}
  fed : Bytes := []
  output : Bytes := []

namespace Progress

/-- The decoder is fed with the next chunk. -/
def feed (p : Progress) (chunk : Bytes) : Progress :=
  { p with stream := p.stream.setInput chunk, fed := p.fed ++ chunk }

/-- The decoder is offered room for output. -/
def offer (p : Progress) (room : Nat) : Progress :=
  { p with stream := p.stream.setRoom room }

/-- The decoder is called. -/
def call (p : Progress) : Progress :=
  { p with stream := p.stream.call.stream, output := p.output ++ p.stream.call.written.toList }

/-- How the next call ends. -/
def status (p : Progress) : Status :=
  p.stream.call.status

/-- How many bytes of the data were used up. -/
def consumed (p : Progress) : Int :=
  p.fed.length - p.stream.reader.input.length

/-- The next call is the last one: it fails, reads the end of the data, or has used up all of them
and still has room. -/
def Ends (data : Bytes) (p : Progress) : Prop :=
  p.status.isError ∨ p.status = .streamEnd ∨
    p.status = .ok ∧ p.fed = data ∧ p.call.stream.reader.input = [] ∧ 0 < p.call.stream.room

end Progress

/-- What can be reached with the data by feeding the decoder, offering room and calling it. A chunk
follows when the one before is used up; calls go on until the last one. -/
inductive Reaches (data : Bytes) : Progress → Prop
  | start : Reaches data {}
  | feed {p : Progress} (chunk : Bytes) (h : Reaches data p) (hempty : p.stream.reader.input = [])
      (hfed : p.fed ++ chunk <+: data) : Reaches data (p.feed chunk)
  | offer {p : Progress} (room : Nat) (h : Reaches data p) : Reaches data (p.offer room)
  | call {p : Progress} (h : Reaches data p) (hgoes : ¬ p.Ends data) : Reaches data p.call

/-- What a decoder makes of all of the data. -/
def verdictOf (data : Bytes) : Verdict :=
  verdict (.reading .mark) (BitReader.append {} data)

/-- A call that is not the last one returns without an end. -/
lemma Progress.status_eq_ok {data : Bytes} {p : Progress} (h : ¬ p.Ends data) : p.status = .ok := by
  rcases p.status.ok_or_streamEnd_or_isError with hst | hst | hst
  · exact hst
  · exact absurd (.inr (.inl hst)) h
  · exact absurd (.inl hst) h

/-- **Nothing is lost between two calls**: what was written so far, followed by what is to be made
of the rest, is what is to be made of all of the data. -/
lemma Reaches.verdict_eq {data : Bytes} {p : Progress} (h : Reaches data p) :
    ∃ rest, data = p.fed ++ rest ∧
      verdictOf data = (verdict p.stream.mode (p.stream.reader.append rest)).after p.output := by
  induction h with
  | start => exact ⟨data, rfl, rfl⟩
  | @feed p chunk h hempty hfed ih =>
    obtain ⟨rest, hdata, hv⟩ := ih
    obtain ⟨rest', rfl⟩ := hfed
    have hrest : rest = chunk ++ rest' := by
      rw [List.append_assoc] at hdata
      exact (List.append_cancel_left hdata).symm
    refine ⟨rest', rfl, ?_⟩
    rw [hv, hrest]
    simp only [BitReader.append, Progress.feed, Stream.setInput, hempty, List.nil_append]
  | @offer p room h ih => exact ih
  | @call p h hgoes ih =>
    obtain ⟨rest, hdata, hv⟩ := ih
    refine ⟨rest, hdata, ?_⟩
    rw [hv, Stream.verdict_of_call_ok (Progress.status_eq_ok hgoes) rest, Verdict.after_after]
    rfl

/-- What was written so far is the beginning of all that is written. -/
lemma Reaches.output_prefix {data : Bytes} {p : Progress} (h : Reaches data p) :
    p.output <+: (verdictOf data).output := by
  obtain ⟨rest, -, hv⟩ := h.verdict_eq
  rw [hv]
  exact List.prefix_append _ _

/-- The last call ends as the data end. -/
lemma Reaches.status_eq {data : Bytes} {p : Progress} (h : Reaches data p) (hlast : p.Ends data) :
    p.status = (verdictOf data).status := by
  obtain ⟨rest, hdata, hv⟩ := h.verdict_eq
  rw [hv]
  rcases hlast with hst | hst | ⟨hst, rfl, hinput, hroom⟩
  · exact (Stream.verdict_of_call_isError hst rest).symm
  · rw [(Stream.verdict_of_call_streamEnd hst rest).1]
    exact hst
  · obtain rfl : rest = [] := List.append_right_eq_self.1 hdata.symm
    have hstarved := (Stream.room_of_call_ok hst).2.resolve_left hroom.ne'
    rw [Stream.verdict_of_call_ok hst [], BitReader.append_nil, hstarved.2]
    exact hst

/-- Unless the data are invalid, the last call completes the output and stops where the data are to
be left. -/
lemma Reaches.end_eq {data : Bytes} {p : Progress} (h : Reaches data p) (hlast : p.Ends data)
    (hvalid : ¬ p.status.isError) :
    p.call.output = (verdictOf data).output ∧ p.call.stream.mode = (verdictOf data).mode ∧
      p.call.consumed = data.length - (verdictOf data).reader.input.length := by
  obtain ⟨rest, hdata, hv⟩ := h.verdict_eq
  rcases hlast with hst | hst | ⟨hst, rfl, hinput, hroom⟩
  · exact absurd hst hvalid
  · rw [(Stream.verdict_of_call_streamEnd hst rest).1] at hv
    refine ⟨by rw [hv]; rfl, by rw [hv]; rfl, ?_⟩
    rw [hv, hdata]
    simp only [Progress.consumed, Progress.call, Verdict.after, BitReader.input_append,
      List.length_append]
    omega
  · obtain rfl : rest = [] := List.append_right_eq_self.1 hdata.symm
    have hstarved := (Stream.room_of_call_ok hst).2.resolve_left hroom.ne'
    rw [Stream.verdict_of_call_ok hst [], BitReader.append_nil, hstarved.2,
      Verdict.after_after] at hv
    refine ⟨by rw [hv]; simp [Progress.call, Verdict.after], by rw [hv]; rfl, ?_⟩
    rw [hv]
    rfl

/-- **Decoding does not depend on the pieces** in which the data are fed and room is offered. Two
ways of decoding the same data end with the same status. Unless that is a failure, they write the
same, stop in the same mode and use up the same bytes; and if it is one, of what was written before,
one is the beginning of the other. -/
theorem ending_independent_of_pieces {data : Bytes} {p q : Progress} (hp : Reaches data p)
    (hq : Reaches data q) (hpe : p.Ends data) (hqe : q.Ends data) :
    p.status = q.status ∧
      (¬ p.status.isError →
        p.call.output = q.call.output ∧
          p.call.stream.mode.number = q.call.stream.mode.number ∧
          p.call.consumed = q.call.consumed) ∧
      (p.status.isError → p.output <+: q.output ∨ q.output <+: p.output) := by
  have hst : p.status = q.status := (hp.status_eq hpe).trans (hq.status_eq hqe).symm
  refine ⟨hst, fun hvalid => ?_, fun _ => ?_⟩
  · obtain ⟨hpo, hpm, hpc⟩ := hp.end_eq hpe hvalid
    obtain ⟨hqo, hqm, hqc⟩ := hq.end_eq hqe (hst ▸ hvalid)
    exact ⟨hpo.trans hqo.symm, by rw [hpm, hqm], hpc.trans hqc.symm⟩
  · exact List.prefix_or_prefix_of_prefix hp.output_prefix hq.output_prefix

/-- A call that finds too little input reads it and returns. -/
lemma Progress.call_of_starved {p p' : Phase} {r r' : BitReader} (h : p.run r = .starved p' r')
    (room : Nat) (fed output : Bytes) :
    status ⟨⟨.reading p, r, room⟩, fed, output⟩ = .ok ∧
      call ⟨⟨.reading p, r, room⟩, fed, output⟩ = ⟨⟨.reading p', r', room⟩, fed, output⟩ := by
  have hcall : Stream.call ⟨.reading p, r, room⟩ = ⟨.ok, #[], ⟨.reading p', r', room⟩⟩ := by
    rw [Stream.call, Stream.loop]
    simp only
    split <;> rename_i h' <;> simp_all
  simp [status, call, hcall]

/-- A call that finds too little input is not the last one while there are data left to be fed. -/
lemma Progress.not_ends_of_starved {p p' : Phase} {r r' : BitReader} {data fed : Bytes}
    (h : p.run r = .starved p' r') (hfed : fed ≠ data) (room : Nat) (output : Bytes) :
    ¬ Ends data ⟨⟨.reading p, r, room⟩, fed, output⟩ := by
  rintro (hst | hst | hst)
  · simp [(call_of_starved h room fed output).1, Status.isError, Status.code] at hst
  · simp [(call_of_starved h room fed output).1] at hst
  · exact hfed hst.2.1

/-- The first bytes of a block, fed at once and in three chunks, one of them empty. Both ways end in
the middle of the block, in the mode that waits for the last byte of its row. -/
theorem ending_of_block_in_three_pieces :
    let data : Bytes := [0x31, 0x00, 0x17]
    let whole := (({} : Progress).feed data).offer 1
    let pieces :=
      ((((({} : Progress).feed [0x31]).offer 0).call.feed []).call.feed [0x00, 0x17]).offer 5
    (Reaches data whole ∧ Reaches data pieces ∧ whole.Ends data ∧ pieces.Ends data) ∧
      whole.status = pieces.status ∧
      whole.call.stream.mode.number = pieces.call.stream.mode.number ∧
      pieces.call.stream.mode.number = 15 := by
  intro data whole pieces
  -- reading each piece
  have h₁ : Phase.run .mark ⟨0, 0, [0x31]⟩ = .starved (.origin 2 0) ⟨0x31, 0, []⟩ :=
    (Phase.run_of_wait rfl rfl).trans (Phase.run_of_none rfl)
  have h₂ : Phase.run (.origin 2 0) ⟨0x31, 0, []⟩ = .starved (.origin 2 0) ⟨0x31, 0, []⟩ :=
    Phase.run_of_none rfl
  have h₃ : Phase.run (.origin 2 0) ⟨0x31, 0, [0x00, 0x17]⟩ =
      .starved (.origin 0 0x17) ⟨0x310017, 0, []⟩ :=
    (Phase.run_of_wait rfl rfl).trans ((Phase.run_of_wait rfl rfl).trans (Phase.run_of_none rfl))
  have h : Phase.run .mark ⟨0, 0, [0x31, 0x00, 0x17]⟩ =
      .starved (.origin 0 0x17) ⟨0x310017, 0, []⟩ :=
    (Phase.run_of_wait rfl rfl).trans h₃
  -- each call
  have e₁ := (Progress.call_of_starved h₁ 0 [0x31] []).2
  have e₂ := (Progress.call_of_starved h₂ 0 [0x31] []).2
  obtain ⟨st₃, e₃⟩ := Progress.call_of_starved h₃ 5 data []
  obtain ⟨st, e⟩ := Progress.call_of_starved h 1 data []
  have hfirst : (((({} : Progress).feed [0x31]).offer 0).call.feed []) =
      ⟨⟨.reading (.origin 2 0), ⟨0x31, 0, []⟩, 0⟩, [0x31], []⟩ := congrArg (Progress.feed · []) e₁
  have hpieces : pieces = ⟨⟨.reading (.origin 2 0), ⟨0x31, 0, [0x00, 0x17]⟩, 5⟩, data, []⟩ := by
    simp only [pieces, hfirst, e₂]
    rfl
  have hwhole : whole = ⟨⟨.reading .mark, ⟨0, 0, data⟩, 1⟩, data, []⟩ := rfl
  have hrw : Reaches data whole := (Reaches.start.feed data rfl (List.prefix_refl _)).offer 1
  have hrp : Reaches data pieces := by
    have r₁ : Reaches data ⟨⟨.reading .mark, ⟨0, 0, [0x31]⟩, 0⟩, [0x31], []⟩ :=
      (Reaches.start.feed [0x31] rfl (by decide)).offer 0
    have r₂ := r₁.call (Progress.not_ends_of_starved h₁ (by decide) 0 [])
    rw [e₁] at r₂
    have r₃ : Reaches data ⟨⟨.reading (.origin 2 0), ⟨0x31, 0, []⟩, 0⟩, [0x31], []⟩ :=
      r₂.feed [] rfl (by decide)
    have r₄ := r₃.call (Progress.not_ends_of_starved h₂ (by decide) 0 [])
    rw [e₂] at r₄
    rw [hpieces]
    exact (r₄.feed [0x00, 0x17] rfl (by decide)).offer 5
  have hew : whole.Ends data := by
    rw [hwhole]
    exact .inr (.inr ⟨st, rfl, by rw [e], by rw [e]; decide⟩)
  have hep : pieces.Ends data := by
    rw [hpieces]
    exact .inr (.inr ⟨st₃, rfl, by rw [e₃], by rw [e₃]; decide⟩)
  obtain ⟨hst, hend, -⟩ := ending_independent_of_pieces hrw hrp hew hep
  have hnum : pieces.call.stream.mode.number = 15 := by rw [hpieces, e₃]; rfl
  refine ⟨⟨hrw, hrp, hew, hep⟩, hst, (hend ?_).2.1, hnum⟩
  rw [hwhole, st]
  decide

end Nsis.Bzip2
