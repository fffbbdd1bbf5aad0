import Nsis.Bzip2.Links

/-!
# Expanding a block

Following the links of a block gives its bytes. Four equal bytes in a row are followed by a count of
further copies. The expansion is written into the room the caller offers; when the room is used up,
the expansion stops and can be taken up again.

## Main definitions

* `Nsis.Bzip2.Status` — how a call of the decoder ends.
* `Nsis.Bzip2.Output` — a block that is being written out.
* `Nsis.Bzip2.Output.next` — the next byte of the block.
* `Nsis.Bzip2.Output.startRun` — the next run: up to three equal bytes, or four and a count.
* `Nsis.Bzip2.Output.drain` — writing into the room that there is.

## Main results

* `Nsis.Bzip2.Output.work_le_of_drain` — writing brings the end of the block nearer.
-/

namespace Nsis.Bzip2

/-- How a call of the decoder ends. -/
inductive Status where
  /-- More input or more room is needed. -/
  | ok
  /-- The end of the data was read. -/
  | streamEnd
  /-- The data are invalid. -/
  | dataError
  /-- The end of the data had been read before. -/
  | sequenceError
  /-- A cell outside a table was needed. -/
  | outOfBounds
  deriving DecidableEq, Repr

namespace Status

/-- The number of a status. -/
def code : Status → Int
  | ok => 0
  | streamEnd => 4
  | dataError => -4
  | sequenceError => -1
  | outOfBounds => -9

/-- Whether a status is a failure. -/
def isError (s : Status) : Bool :=
  s.code < 0

end Status

/-- A block that is being written out. -/
structure Output where
  /-- The linked cells of the block. -/
  cells : Array Cell
  /-- The byte of the run that is being written. -/
  char : UInt8
  /-- How many copies of it are still to be written. -/
  pending : Nat
  /-- How many bytes of the block were read. -/
  used : Nat
  /-- The byte that begins the next run. -/
  ahead : UInt8
  /-- The cell to read next. -/
  pos : Nat
  deriving Repr

namespace Output

/-- How many bytes are read from a block in all: its own, and one more that is never written. -/
def readable (o : Output) : Nat :=
  o.cells.size + 1

/-- Read the next byte of the block. -/
def next (o : Output) : Except Status (UInt8 × Output) :=
  if maxBlock ≤ o.pos then .error .dataError
  else
    match o.cells[o.pos]? with
    | none => .error .outOfBounds
    | some c => .ok (c.byte, { o with pos := c.link, used := o.used + 1 })

/-- Begin the next run. It ends at a byte that differs, at the end of the block, or with a count
after four equal bytes. -/
def startRun (o : Output) : Except Status Output := do
  let first := o.ahead
  let (b, o) ← o.next
  if b ≠ first then .ok { o with char := first, pending := 1, ahead := b }
  else if o.used = o.readable then .ok { o with char := first, pending := 1 }
  else
    let (b, o) ← o.next
    if o.used = o.readable then .ok { o with char := first, pending := 2 }
    else if b ≠ first then .ok { o with char := first, pending := 2, ahead := b }
    else
      let (b, o) ← o.next
      if o.used = o.readable then .ok { o with char := first, pending := 3 }
      else if b ≠ first then .ok { o with char := first, pending := 3, ahead := b }
      else
        let (count, o) ← o.next
        let (b, o) ← o.next
        .ok { o with char := first, pending := count.toNat + 4, ahead := b }

/-- Where writing a block stopped. -/
inductive Drained where
  /-- The room is used up. -/
  | suspended (o : Output) (written : Array UInt8)
  /-- The block is complete; some room is left, or none. -/
  | finished (room : Nat) (written : Array UInt8)
  /-- The block cannot be continued. -/
  | corrupt (s : Status)

/-- An upper bound for what is left to be written: a run has at most 259 bytes. -/
def work (o : Output) : Nat :=
  300 * (o.readable - o.used) + o.pending

/-- Reading a byte leaves the cells alone and counts the byte. -/
theorem next_eq_ok {o o' : Output} {b : UInt8} (h : o.next = .ok (b, o')) :
    o'.cells = o.cells ∧ o'.used = o.used + 1 := by
  unfold next at h
  split at h
  · simp at h
  · split at h
    · simp at h
    · simp only [Except.ok.injEq, Prod.mk.injEq] at h
      obtain ⟨-, rfl⟩ := h
      exact ⟨rfl, rfl⟩

/-- Beginning a run leaves the cells alone, reads at least one byte and sets up at most 259
copies. -/
theorem startRun_eq_ok {o o' : Output} (h : o.startRun = .ok o') :
    o'.cells = o.cells ∧ o.used < o'.used ∧ o'.pending ≤ 259 := by
  unfold startRun at h
  simp only [bind, Except.bind] at h
  split at h
  · simp at h
  rename_i p₁ h₁
  obtain ⟨c₁, u₁⟩ := next_eq_ok h₁
  split at h
  · simp only [Except.ok.injEq] at h
    subst h
    exact ⟨c₁, by simp only; omega, by simp⟩
  split at h
  · simp only [Except.ok.injEq] at h
    subst h
    exact ⟨c₁, by simp only; omega, by simp⟩
  split at h
  · simp at h
  rename_i p₂ h₂
  obtain ⟨c₂, u₂⟩ := next_eq_ok h₂
  split at h
  · simp only [Except.ok.injEq] at h
    subst h
    exact ⟨c₂.trans c₁, by simp only; omega, by simp⟩
  split at h
  · simp only [Except.ok.injEq] at h
    subst h
    exact ⟨c₂.trans c₁, by simp only; omega, by simp⟩
  split at h
  · simp at h
  rename_i p₃ h₃
  obtain ⟨c₃, u₃⟩ := next_eq_ok h₃
  split at h
  · simp only [Except.ok.injEq] at h
    subst h
    exact ⟨c₃.trans (c₂.trans c₁), by simp only; omega, by simp⟩
  split at h
  · simp only [Except.ok.injEq] at h
    subst h
    exact ⟨c₃.trans (c₂.trans c₁), by simp only; omega, by simp⟩
  split at h
  · simp at h
  rename_i p₄ h₄
  obtain ⟨c₄, u₄⟩ := next_eq_ok h₄
  split at h
  · simp at h
  rename_i p₅ h₅
  obtain ⟨c₅, u₅⟩ := next_eq_ok h₅
  simp only [Except.ok.injEq] at h
  subst h
  have hlt := p₄.1.toNat_lt
  exact ⟨c₅.trans (c₄.trans (c₃.trans (c₂.trans c₁))), by simp only; omega, by simp only; omega⟩

/-- Write the block into `room` bytes, behind what was `written` before. A block that was read
beyond its end had a count missing. -/
def drain (o : Output) (room : Nat) (written : Array UInt8) : Drained :=
  if room < o.pending then
    .suspended { o with pending := o.pending - room } (written ++ Array.replicate room o.char)
  else if o.readable < o.used then .corrupt .dataError
  else if o.used = o.readable then
    .finished (room - o.pending) (written ++ Array.replicate o.pending o.char)
  else
    match _h : o.startRun with
    | .error s => .corrupt s
    | .ok o' => drain o' (room - o.pending) (written ++ Array.replicate o.pending o.char)
termination_by o.readable - o.used
decreasing_by
  obtain ⟨hc, hu, -⟩ := startRun_eq_ok _h
  simp only [readable, hc] at *
  omega

/-- Writing brings the end of the block nearer: what is left never grows, and shrinks if anything
was written. -/
theorem work_le_of_drain {o o' : Output} {room : Nat} {written written' : Array UInt8}
    (h : o.drain room written = .suspended o' written') :
    o'.work ≤ o.work ∧ (written.size < written'.size → o'.work < o.work) := by
  fun_induction drain o room written with
  | case1 o room written hroom =>
    simp only [Drained.suspended.injEq] at h
    obtain ⟨rfl, rfl⟩ := h
    refine ⟨?_, ?_⟩
    · simp only [work, readable]
      omega
    · simp only [work, readable, Array.size_append, Array.size_replicate]
      omega
  | case2 => simp at h
  | case3 => simp at h
  | case4 => simp at h
  | case5 o room written hroom hle hne o₁ h₁ ih =>
    obtain ⟨hc, hu, hp⟩ := startRun_eq_ok h₁
    have hlt : o₁.work < o.work := by
      simp only [work, readable, hc] at hle hne ⊢
      omega
    exact ⟨Nat.le_of_lt (Nat.lt_of_le_of_lt (ih h).1 hlt), fun _ => Nat.lt_of_le_of_lt (ih h).1 hlt⟩

end Output

end Nsis.Bzip2
