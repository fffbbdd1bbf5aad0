import Nsis.Bzip2.Phase

/-!
# Decoding a stream

A decoder alternates between reading a block and writing it. A caller hands it input and room for
output in pieces of any size; a call goes on until one of them is used up, the data end, or the data
turn out to be invalid.

## Main definitions

* `Nsis.Bzip2.Stream` — a decoder between two calls.
* `Nsis.Bzip2.Stream.call` — one call.
* `Nsis.Bzip2.decompress` — decoding a byte string at once.

## Main results

* `Nsis.Bzip2.Stream.progress_of_call` — a call that writes something uses up input or brings the
  end of the current block nearer.
-/

namespace Nsis.Bzip2

/-- A decoder between two calls. -/
structure Stream where
  mode : Mode := .reading .mark
  reader : BitReader := {}
  room : Nat := 0
  deriving Repr

/-- The result of a call: how it ended, what it wrote, and the decoder afterwards. -/
structure Call where
  status : Status
  written : Array UInt8
  stream : Stream
  deriving Repr

/-- What is left to be done with the current block. -/
def Mode.work : Mode → Nat
  | .writing o => 1 + o.work
  | _ => 0

namespace Stream

/-- Replace what is left of the input by a chunk. The number of bytes that are left, `avail_in`, is
kept in a word of 32 bits, so a chunk has fewer than `2 ^ 32` bytes. -/
def setInput (s : Stream) (input : Bytes) : Stream :=
  { s with reader := { s.reader with input := input } }

/-- Replace the room for output. -/
def setRoom (s : Stream) (room : Nat) : Stream :=
  { s with room := room }

/-- Read and write blocks, behind what was `written` before. Output that turns out to be invalid is
not counted as written. -/
def loop (s : Stream) (written : Array UInt8) : Call :=
  match _hm : s.mode with
  | .idle => ⟨.sequenceError, written, s⟩
  | .writing o =>
    match o.drain s.room #[] with
    | .corrupt st => ⟨st, written, s⟩
    | .suspended o out => ⟨.ok, written ++ out, { s with mode := .writing o, room := 0 }⟩
    | .finished room out =>
      loop { s with mode := .reading .mark, room := room } (written ++ out)
  | .reading p =>
    match _hr : p.run s.reader with
    | .starved p r => ⟨.ok, written, { s with mode := .reading p, reader := r }⟩
    | .stopped .streamEnd m r => ⟨.streamEnd, written, { s with mode := m, reader := r }⟩
    | .stopped .outOfBounds m r => ⟨.outOfBounds, written, { s with mode := m, reader := r }⟩
    | .stopped st m r =>
      match m with
      | .writing o => loop { s with mode := .writing o, reader := r } written
      | m => ⟨st, written, { s with mode := m, reader := r }⟩
termination_by (s.reader.bits, s.mode.work)
decreasing_by
  · rw [_hm]
    exact Prod.Lex.right _ (by simp only [Mode.work]; omega)
  · exact Prod.Lex.left _ _ (Phase.bits_lt_of_run_stopped _hr)

/-- One call of the decoder. -/
def call (s : Stream) : Call :=
  s.loop #[]

/-- The order in which a decoder makes progress: input is used up, or the current block gets
shorter. -/
def Before (s t : Stream) : Prop :=
  s.reader.bits < t.reader.bits ∨
    s.reader.bits = t.reader.bits ∧ s.mode.work < t.mode.work

/-- The order in which a decoder makes progress is transitive. -/
theorem Before.trans {s t u : Stream} (h : s.Before t) (h' : t.Before u) : s.Before u := by
  unfold Before at *
  omega

/-- A call never undoes progress, and makes some if it writes anything. -/
theorem progress_of_loop (s : Stream) (written : Array UInt8) :
    let c := s.loop written
    (c.stream.Before s ∨
      c.stream.reader.bits = s.reader.bits ∧ c.stream.mode.work = s.mode.work) ∧
    (written.size < c.written.size → c.stream.Before s) := by
  fun_induction loop s written with
  | case1 s written hm => exact ⟨Or.inr ⟨rfl, rfl⟩, fun h => absurd h (Nat.lt_irrefl _)⟩
  | case2 s written o hm st hd => exact ⟨Or.inr ⟨rfl, rfl⟩, fun h => absurd h (Nat.lt_irrefl _)⟩
  | case3 s written o hm o₁ out hd =>
    have hw := Output.work_le_of_drain hd
    have hs : s.mode.work = 1 + o.work := by rw [hm]; rfl
    have hs₁ : (Mode.writing o₁).work = 1 + o₁.work := rfl
    simp only [Before, Array.size_append, hs, hs₁, List.size_toArray, List.length_nil,
      true_and] at hw ⊢
    refine ⟨?_, ?_⟩
    · omega
    · intro h
      have := hw.2 (by omega)
      omega
  | case4 s written o hm room out hd ih =>
    have hs : s.mode.work = 1 + o.work := by rw [hm]; rfl
    have hb : Before { s with mode := .reading .mark, room := room } s :=
      Or.inr ⟨rfl, by rw [hs]; simp only [Mode.work]; omega⟩
    have hall : (loop { s with mode := .reading .mark, room := room }
        (written ++ out)).stream.Before s := by
      rcases ih.1 with h | h
      · exact h.trans hb
      · unfold Before at hb ⊢
        omega
    exact ⟨Or.inl hall, fun _ => hall⟩
  | case5 s written p hm p₁ r₁ hr =>
    have hle := Phase.bits_le_of_run_starved hr
    have hs : s.mode.work = 0 := by rw [hm]; rfl
    refine ⟨?_, fun h => absurd h (Nat.lt_irrefl _)⟩
    rcases Nat.lt_or_eq_of_le hle with h | h
    · exact Or.inl (Or.inl h)
    · exact Or.inr ⟨h, hs.symm⟩
  | case6 s written p hm m₁ r₁ hr =>
    have hlt := Phase.bits_lt_of_run_stopped hr
    exact ⟨Or.inl (Or.inl hlt), fun _ => Or.inl hlt⟩
  | case7 s written p hm m₁ r₁ hr =>
    have hlt := Phase.bits_lt_of_run_stopped hr
    exact ⟨Or.inl (Or.inl hlt), fun _ => Or.inl hlt⟩
  | case8 s written p hm st r₁ hst hob o₁ hr _ ih =>
    have hlt := Phase.bits_lt_of_run_stopped hr
    have hb : Before { s with mode := .writing o₁, reader := r₁ } s := Or.inl hlt
    have hall : (loop { s with mode := .writing o₁, reader := r₁ } written).stream.Before s := by
      rcases ih.1 with h | h
      · exact h.trans hb
      · unfold Before at hb ⊢
        simp only at h hlt
        omega
    exact ⟨Or.inl hall, fun _ => hall⟩
  | case9 s written p hm st m₁ r₁ hst hob hr hnw =>
    have hlt := Phase.bits_lt_of_run_stopped hr
    exact ⟨Or.inl (Or.inl hlt), fun _ => Or.inl hlt⟩

/-- A call that writes something makes progress. -/
theorem progress_of_call {s : Stream} (h : s.call.written ≠ #[]) : s.call.stream.Before s := by
  apply (progress_of_loop s #[]).2
  have := Array.size_pos_iff.2 h
  simpa [call] using this

end Stream

/-- The room that is offered to each call when a whole byte string is decoded. -/
def bufferSize : Nat := 4096

/-- Call the decoder until a call fails or writes nothing. What a failing call wrote is dropped. -/
def decompressFrom (s : Stream) (out : Array UInt8) : Array UInt8 :=
  let c := (s.setRoom bufferSize).call
  if c.status.isError then out
  else if _h : c.written = #[] then out
  else decompressFrom c.stream (out ++ c.written)
termination_by (s.reader.bits, s.mode.work)
decreasing_by
  have hb : c.stream.Before (s.setRoom bufferSize) := Stream.progress_of_call _h
  rcases hb with hb | ⟨he, hb⟩
  · exact Prod.Lex.left _ _ hb
  · rw [show c.stream.reader.bits = s.reader.bits from he]
    exact Prod.Lex.right _ hb

/-- Decode a byte string. Of invalid data, what was decoded before is returned. -/
def decompress (data : Bytes) : Bytes :=
  (decompressFrom (Stream.setInput {} data) #[]).toList

end Nsis.Bzip2
