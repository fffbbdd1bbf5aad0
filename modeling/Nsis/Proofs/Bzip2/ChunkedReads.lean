import Nsis.Proofs.Bzip2.BitQueue
import Nsis.Proofs.Bzip2.Verdict

/-!
# Reading fields from chunks

Input may come in chunks of any size, so that a field may begin in one chunk and end in another. A
read that starves keeps the bits it has fetched, and is repeated when the next chunk is set. However
the input is cut, the fields are those of the bits of all chunks together, in their order. Whatever
was in the word of 32 bits at the start, no bit that waits is lost: a byte is fetched only while
fewer bits wait than are to be read.

## Main definitions

* `Nsis.Bzip2.fieldsOf` — the fields of given widths in a list of bits.
* `Nsis.Bzip2.BitReader.Passes` — the readers that a read passes through, one byte after the other.
* `Nsis.Bzip2.BitReader.Roomy` — the next round of a read keeps to the word.
* `Nsis.Bzip2.BitReader.attempts` — the reads for fields of given widths, with their repetitions.

## Main results

* `Nsis.Bzip2.BitReader.Passes.read_eq` — a read may be taken up wherever it has come to.
* `Nsis.Bzip2.BitReader.Passes.live_le`, `Nsis.Bzip2.BitReader.Passes.queue_eq` — on the way, no bit
  that waits is lost.
* `Nsis.Bzip2.BitReader.fields_attempts` — the fields are those of the bits in the reader and in all
  chunks.
* `Nsis.Bzip2.BitReader.chunks_are_read_in_fields` — fields from chunks, with a word that starts out
  with anything.
-/

namespace Nsis.Bzip2

/-! ## Fields of bits -/

/-- The fields of given widths at the front of a list of bits, one after the other, as far as there
are bits for them. -/
def fieldsOf : List Nat → List Bool → List Nat
  | [], _ => []
  | n :: ns, bits =>
    if n ≤ bits.length then ofBits (bits.take n) :: fieldsOf ns (bits.drop n) else []

/-- The first field is the number of the first bits. -/
lemma fieldsOf_append {n : Nat} {front : List Bool} (h : front.length = n) (ns : List Nat)
    (bits : List Bool) : fieldsOf (n :: ns) (front ++ bits) = ofBits front :: fieldsOf ns bits := by
  subst h
  rw [fieldsOf, if_pos (by simp), List.take_left, List.drop_left]

/-- Without enough bits for it, there is no field. -/
lemma fieldsOf_of_lt {n : Nat} {bits : List Bool} (h : bits.length < n) (ns : List Nat) :
    fieldsOf (n :: ns) bits = [] := by
  rw [fieldsOf, if_neg (by omega)]

namespace BitReader

/-! ## The way of a read -/

/-- The readers that a read of `n` bits passes through: as long as too few bits wait, a byte is
fetched. -/
inductive Passes (n : Nat) (r : BitReader) : BitReader → Prop
  | start : Passes n r r
  | fetch {word : UInt32} {live : Nat} {b : UInt8} {rest : Bytes}
      (h : Passes n r ⟨word, live, b :: rest⟩)
      (hlive : live < n) : Passes n r ⟨(word <<< 8) ||| b.toUInt32, live + 8, rest⟩

/-- The next round of a read of `n` bits keeps to the word: if it takes the field, it shifts by less
than the 32 bits of the word, and if it fetches a byte, there is room for it above the bits that
wait. -/
structure Roomy (n : Nat) (r : BitReader) : Prop where
  live_le : r.live ≤ 27
  take : n ≤ r.live → r.live - n < 32 ∧ n < 32
  fetch : r.live < n → r.live + 8 ≤ 32

/-- A reader with at most 27 bits in its word has room for a field of at most 20 bits. -/
lemma roomy_of_live_le {n : Nat} {r : BitReader} (hn : n ≤ 20) (h : r.live ≤ 27) : Roomy n r where
  live_le := h
  take _ := by omega
  fetch _ := by omega

namespace Passes

variable {n : Nat} {r r' : BitReader}

/-- A read may be taken up wherever it has come to. -/
lemma read_eq (h : Passes n r r') : r'.read n = r.read n := by
  induction h with
  | start => rfl
  | fetch h hlive ih =>
    rw [← ih]
    simp only [read]
    rw [readFrom, if_neg (by omega)]

/-- Reading a field that is not too wide, a reader never has more than 27 bits in its word. -/
lemma live_le (h : Passes n r r') (hn : n ≤ 20) (hr : r.live ≤ 27) : r'.live ≤ 27 := by
  cases h with
  | start => exact hr
  | fetch h hlive =>
    simp only
    omega

/-- Bytes move from the input to the word, and the bits stay the same. -/
lemma queue_eq (h : Passes n r r') (hn : n ≤ 20) : r'.queue = r.queue := by
  induction h with
  | start => rfl
  | @fetch word live b rest h hlive ih =>
    rw [← ih]
    simp only [queue, bitsOf_shiftIn word b (show live + 8 ≤ 32 by omega), toBits_cons,
      List.append_assoc]

end Passes

/-! ## Reads and their repetitions -/

/-- A read that is tried: the reader that it begins with, and the width of its field. -/
structure Attempt where
  reader : BitReader
  width : Nat

namespace Attempt

/-- The field that is read, unless the read starves. -/
def field (a : Attempt) : Option Nat :=
  (a.reader.read a.width).1

/-- The reader that is left. -/
def after (a : Attempt) : BitReader :=
  (a.reader.read a.width).2

/-- A read of at most 20 bits that begins with at most 27 bits that wait. -/
structure Sound (a : Attempt) : Prop where
  width_le : a.width ≤ 20
  live_le : a.reader.live ≤ 27

namespace Sound

variable {a : Attempt} {v : Nat}

/-- A read delivers the bits at the front of the queue and leaves the others. -/
lemma queue_of_some (ha : a.Sound) (h : a.field = some v) :
    ∃ bits, bits.length = a.width ∧ v = ofBits bits ∧ a.reader.queue = bits ++ a.after.queue := by
  obtain ⟨bits, hlen, hv, hqueue, -⟩ := queue_of_read_some ha.width_le ha.live_le (Prod.ext h rfl)
  exact ⟨bits, hlen, hv, hqueue⟩

/-- A read starves because there are too few bits. It has used up the input then, and leaves all
bits. -/
lemma queue_of_none (ha : a.Sound) (h : a.field = none) :
    a.after.input = [] ∧ a.after.queue = a.reader.queue ∧ a.reader.queue.length < a.width := by
  have hread : a.reader.read a.width = (none, a.after) := Prod.ext h rfl
  obtain ⟨hqueue, hlt, -⟩ := queue_of_read_none ha.width_le ha.live_le hread
  exact ⟨(read_append_of_none hread []).1, hqueue, hlt⟩

/-- Behind a sound attempt, there are at most 27 bits in the word of the reader. -/
lemma live_after_le (ha : a.Sound) : a.after.live ≤ 27 := by
  cases h : a.field with
  | none => exact (queue_of_read_none ha.width_le ha.live_le (Prod.ext h rfl)).2.2
  | some v =>
    obtain ⟨-, -, -, -, hlive⟩ := queue_of_read_some ha.width_le ha.live_le (Prod.ext h rfl)
    exact hlive

end Sound

end Attempt

/-- Set the next chunk of the input. -/
def setInput (r : BitReader) (chunk : Bytes) : BitReader :=
  { r with input := chunk }

/-- A chunk that is set when the input is used up comes behind all other bits. -/
lemma queue_setInput {r : BitReader} (h : r.input = []) (chunk : Bytes) :
    (r.setInput chunk).queue = r.queue ++ toBits chunk := by
  simp [queue, setInput, h]

/-- The reads for fields of given widths, one after the other. A read that starves is repeated after
the next chunk is set; if there is none, it is the last. -/
def attempts (r : BitReader) (chunks : List Bytes) : (widths : List Nat) → List Attempt
  | [] => []
  | n :: ns =>
    let a : Attempt := ⟨r, n⟩
    match a.field, chunks with
    | some _, chunks => a :: attempts a.after chunks ns
    | none, [] => [a]
    | none, chunk :: chunks => a :: attempts (a.after.setInput chunk) chunks (n :: ns)
termination_by widths => chunks.length + widths.length

section Attempts

variable {r : BitReader} {chunks : List Bytes} {widths : List Nat}

/-- Every read begins with at most 27 bits that wait, if the first one does. -/
lemma sound_of_mem_attempts (hr : r.live ≤ 27) (hwidths : ∀ n ∈ widths, n ≤ 20) :
    ∀ a ∈ attempts r chunks widths, a.Sound := by
  fun_induction attempts r chunks widths with
  | case1 => simp
  | case2 r n ns a v chunks hv ih =>
    rw [List.forall_mem_cons] at hwidths
    have ha : a.Sound := ⟨hwidths.1, hr⟩
    exact List.forall_mem_cons.2 ⟨ha, ih ha.live_after_le hwidths.2⟩
  | case3 r n ns a hstarved =>
    rw [List.forall_mem_cons] at hwidths
    exact List.forall_mem_singleton.2 ⟨hwidths.1, hr⟩
  | case4 r n ns a chunk chunks hstarved ih =>
    have ha : a.Sound := ⟨hwidths n List.mem_cons_self, hr⟩
    exact List.forall_mem_cons.2 ⟨ha, ih ha.live_after_le hwidths⟩

/-- **The fields are those of all bits that there are**, those in the reader and then those of the
chunks.

**Proof sketch.** Induction along the reads. A field that is read is taken off the front of the
bits. When a read starves and the next chunk is set, its bits come behind those that the reader has
kept, so that the bits that there are stay the same. When there is no chunk any more, there are too
few bits for the field. -/
lemma fields_attempts (hr : r.live ≤ 27) (hwidths : ∀ n ∈ widths, n ≤ 20) :
    (attempts r chunks widths).filterMap Attempt.field =
      fieldsOf widths (r.queue ++ toBits chunks.flatten) := by
  fun_induction attempts r chunks widths with
  | case1 => rfl
  | case2 r n ns a v chunks hv ih =>
    rw [List.forall_mem_cons] at hwidths
    have ha : a.Sound := ⟨hwidths.1, hr⟩
    obtain ⟨bits, hlen, rfl, hqueue⟩ := ha.queue_of_some hv
    have hqueue : r.queue = bits ++ a.after.queue := hqueue
    rw [List.filterMap_cons_some hv, ih ha.live_after_le hwidths.2, hqueue, List.append_assoc,
      fieldsOf_append hlen]
  | case3 r n ns a hstarved =>
    have ha : a.Sound := ⟨hwidths n List.mem_cons_self, hr⟩
    obtain ⟨-, -, hlt⟩ := ha.queue_of_none hstarved
    rw [List.filterMap_cons_none hstarved, List.flatten_nil, toBits_nil, List.append_nil]
    exact (fieldsOf_of_lt hlt ns).symm
  | case4 r n ns a chunk chunks hstarved ih =>
    have ha : a.Sound := ⟨hwidths n List.mem_cons_self, hr⟩
    obtain ⟨hinput, hqueue, -⟩ := ha.queue_of_none hstarved
    have hqueue : a.after.queue = r.queue := hqueue
    rw [List.filterMap_cons_none hstarved, ih ha.live_after_le hwidths,
      queue_setInput hinput, hqueue, List.flatten_cons, toBits_append, List.append_assoc]

end Attempts

/-- **Chunks are read as one queue of bits.** Whatever the word holds at the start, with no bit that
waits, however the input is cut into chunks, and whatever fields of at most 20 bits are read, where
a read that starves is repeated after the next chunk is set: the fields that are delivered are those
of the bits of all chunks together, one after the other, as far as there are bits for them. Wherever
a read has come to, at most 27 bits wait, so that no shift is by as many bits as the word has and no
bit that waits is shifted out of it; the bits that are held do not change until the field is taken.
A read that starves has used up its chunk and holds all bits that it held before. -/
theorem chunks_are_read_in_fields (word : UInt32) (chunk : Bytes) (chunks : List Bytes)
    {widths : List Nat} (hwidths : ∀ n ∈ widths, n ≤ 20) :
    (attempts ⟨word, 0, chunk⟩ chunks widths).filterMap Attempt.field =
        fieldsOf widths (toBits (chunk :: chunks).flatten) ∧
      ∀ a ∈ attempts ⟨word, 0, chunk⟩ chunks widths,
        (∀ r, Passes a.width a.reader r →
          r.read a.width = a.reader.read a.width ∧ Roomy a.width r ∧ r.queue = a.reader.queue) ∧
        a.after.live ≤ 27 ∧
        (a.field = none → a.after.input = [] ∧ a.after.queue = a.reader.queue) := by
  have hlive : (⟨word, 0, chunk⟩ : BitReader).live ≤ 27 := Nat.zero_le 27
  constructor
  · rw [fields_attempts hlive hwidths, List.flatten_cons, toBits_append]
    rfl
  · intro a ha
    have hsound := sound_of_mem_attempts hlive hwidths a ha
    refine ⟨fun r hr => ?_, hsound.live_after_le, fun hstarved => ?_⟩
    · have hroom := hr.live_le hsound.width_le hsound.live_le
      exact ⟨hr.read_eq, roomy_of_live_le hsound.width_le hroom, hr.queue_eq hsound.width_le⟩
    · obtain ⟨hinput, hqueue, -⟩ := hsound.queue_of_none hstarved
      exact ⟨hinput, hqueue⟩

/-- Three bytes in three chunks, one of them empty, behind a word of dead bits: fields of 3, 7 and
12 bits are delivered, the second one after the reader was starved twice, and for 5 more bits there
is not enough. -/
theorem fields_of_three_chunks :
    (∀ n ∈ [3, 7, 12, 5], n ≤ 20) ∧
      (attempts ⟨0xdeadbeef, 0, [0xb5]⟩ [[], [0x93, 0x0f]] [3, 7, 12, 5]).filterMap Attempt.field =
        [0b101, 0b1010110, 0b010011000011] := by
  have hwidths : ∀ n ∈ [3, 7, 12, 5], n ≤ 20 := by decide
  refine ⟨hwidths, ?_⟩
  rw [(chunks_are_read_in_fields 0xdeadbeef [0xb5] [[], [0x93, 0x0f]] hwidths).1]
  decide

end BitReader

end Nsis.Bzip2
