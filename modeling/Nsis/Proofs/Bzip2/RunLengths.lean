import Mathlib.Algebra.BigOperators.Group.List.Basic
import Mathlib.Algebra.GroupWithZero.Nat
import Mathlib.Data.List.Basic
import Nsis.Proofs.Bzip2.Machine
import Nsis.Proofs.Bzip2.Soundness
import Nsis.Proofs.Bzip2.Unsorting

/-!
# Writing a block into buffers

The contents of a block are read byte by byte: four equal bytes of a run are followed by a count of
further copies, and then a new run starts. However the room for the output is divided into buffers,
a block is written as these bytes, each of them once and in order. If the count of the last run is
missing, the block is found to be corrupt, once there was room for the copies that the byte behind
the contents counts.

## Main definitions

* `Nsis.Bzip2.spread` — what contents stand for, and the run that they end in.
* `Nsis.Bzip2.uncounted` — whether the count of the last run is missing.
* `Nsis.Bzip2.Output.pour`, `Nsis.Bzip2.Output.pours` — writing a block into a buffer, and into
  several.

## Main results

* `Nsis.Bzip2.Output.drain_eq_pour` — writing a block and looking whether it is complete.
* `Nsis.Bzip2.Output.remainder_of_holdsBefore` — what is written of a block, and how it ends.
* `Nsis.Bzip2.Output.pours_eq_spread` — writing a block into buffers.
-/

namespace Nsis.Bzip2

/-! ## What contents stand for -/

/-- The run that the bytes read so far end in: its byte and its length, which is at most four. There
is none at the beginning and after a count. -/
abbrev OpenRun := Option (UInt8 × Nat)

/-- Read a byte after a run: what it stands for, and the run then. -/
def OpenRun.read : OpenRun → UInt8 → Bytes × OpenRun
  | none, b => ([b], some (b, 1))
  | some (a, n), b =>
    if n = 4 then (List.replicate b.toNat a, none)
    else if b = a then ([b], some (a, n + 1))
    else ([b], some (b, 1))

/-- What bytes after a run stand for, and the run that they end in. -/
def spread (run : OpenRun) : Bytes → Bytes × OpenRun
  | [] => ([], run)
  | b :: bs => ((run.read b).1 ++ (spread (run.read b).2 bs).1, (spread (run.read b).2 bs).2)

/-- The byte of the four that contents end with, if the count after them is missing. -/
def uncounted (contents : Bytes) : Option UInt8 :=
  match (spread none contents).2 with
  | some (a, 4) => some a
  | _ => none

/-- What is written of contents, if the byte `y` behind them is taken for a missing count. -/
def overrun (contents : Bytes) (y : UInt8) : Bytes :=
  (spread none contents).1 ++ (uncounted contents).elim [] fun a => List.replicate y.toNat a

/-- Bytes behind others are spread with the run that these leave open. -/
lemma spread_append (run : OpenRun) (xs ys : Bytes) :
    spread run (xs ++ ys) =
      ((spread run xs).1 ++ (spread (spread run xs).2 ys).1, (spread (spread run xs).2 ys).2) := by
  induction xs generalizing run with
  | nil => rfl
  | cons x xs ih => simp only [List.cons_append, spread, ih, List.append_assoc]

/-- Up to four equal bytes are spread as they are, and leave their run open. -/
lemma spread_replicate (a : UInt8) {k : Nat} (hk : 0 < k ∧ k ≤ 4) :
    spread none (List.replicate k a) = (List.replicate k a, some (a, k)) := by
  rcases (by omega : k = 1 ∨ k = 2 ∨ k = 3 ∨ k = 4) with rfl | rfl | rfl | rfl <;>
    simp [List.replicate, spread, OpenRun.read]

/-- A run stands for its copies, and the rest for itself. -/
lemma Begins.spread_eq {a : UInt8} {copies : Nat} {contents rest : Bytes}
    (h : Begins a copies contents rest) :
    (spread none contents).1 = List.replicate copies a ++ (spread none rest).1 ∧
      uncounted contents = uncounted rest := by
  cases h with
  | short rest hk hrest =>
    have hrun := spread_replicate a (k := copies) (by omega)
    cases rest with
    | nil =>
      refine ⟨by rw [List.append_nil, hrun, spread, List.append_nil], ?_⟩
      rw [List.append_nil, uncounted, hrun]
      -- fewer than four bytes want no count
      rcases (by omega : copies = 1 ∨ copies = 2 ∨ copies = 3) with rfl | rfl | rfl <;> rfl
    | cons b rest =>
      have hb : b ≠ a := by simpa using hrest
      have hfresh : spread (some (a, copies)) (b :: rest) = spread none (b :: rest) := by
        simp only [spread, OpenRun.read, if_neg (show copies ≠ 4 by omega), if_neg hb]
      simp only [uncounted, spread_append, hrun, hfresh, and_self]
  | counted n rest =>
    have hrun : spread none (a :: a :: a :: a :: n :: rest) =
        (List.replicate (n.toNat + 4) a ++ (spread none rest).1, (spread none rest).2) := by
      simp [spread, OpenRun.read, Nat.add_comm n.toNat, List.replicate_add]
    simp only [uncounted, hrun, and_self]

/-- A run at the start is written first, whatever is taken for a missing count. -/
lemma Begins.overrun_eq {a : UInt8} {copies : Nat} {contents rest : Bytes}
    (h : Begins a copies contents rest) (y : UInt8) :
    overrun contents y = List.replicate copies a ++ overrun rest y := by
  obtain ⟨hspread, huncounted⟩ := h.spread_eq
  rw [overrun, overrun, hspread, huncounted, List.append_assoc]

/-- Four equal bytes lack the count of their run. -/
lemma uncounted_four (a : UInt8) : uncounted [a, a, a, a] = some a := by
  simp [uncounted, spread, OpenRun.read]

/-- Four equal bytes take the byte behind them for their count. -/
lemma overrun_four (a y : UInt8) : overrun [a, a, a, a] y = List.replicate (y.toNat + 4) a := by
  rw [overrun, uncounted_four, Nat.add_comm, List.replicate_add]
  simp [spread, OpenRun.read, List.replicate]

namespace Output

/-! ## What is written of a block -/

/-- The last run of a block whose count is missing takes the byte behind the contents for it, and
reads one byte too many. -/
lemma startRun_of_uncounted {o : Output} {a y z : UInt8} (h : o.HoldsBefore [y, z] [a, a, a, a]) :
    ∃ o', o.startRun = .ok o' ∧ o'.char = a ∧ o'.pending = y.toNat + 4 ∧ o'.readable < o'.used := by
  obtain ⟨rfl, hused, hf⟩ := h
  simp only [readable, List.length_cons, List.length_nil] at hused
  obtain ⟨p₁, h₁, hf₁⟩ := next_of_follows hf
  obtain ⟨p₂, h₂, hf₂⟩ := next_of_follows (o := { o with pos := p₁, used := o.used + 1 }) hf₁
  obtain ⟨p₃, h₃, hf₃⟩ := next_of_follows (o := { o with pos := p₂, used := o.used + 1 + 1 }) hf₂
  obtain ⟨p₄, h₄, hf₄⟩ :=
    next_of_follows (o := { o with pos := p₃, used := o.used + 1 + 1 + 1 }) hf₃
  obtain ⟨p₅, h₅, -⟩ :=
    next_of_follows (o := { o with pos := p₄, used := o.used + 1 + 1 + 1 + 1 }) hf₄
  have hsame : ¬ o.ahead ≠ o.ahead := not_not.2 rfl
  have hend : ∀ k < 4, ¬ o.used + k = o.cells.size + 1 := by omega
  simp only [startRun, bind, Except.bind, h₁, h₂, h₃, h₄, h₅, readable, if_neg hsame, Nat.add_assoc,
    if_neg (hend 1 (by decide)), if_neg (hend 2 (by decide)), if_neg (hend 3 (by decide))]
  refine ⟨_, rfl, rfl, rfl, ?_⟩
  simp only
  omega

/-- **What is written of a block, and how it ends**: the copies of the current run, then what the
contents stand for; a missing count is found only after the byte behind the contents was taken for
it.

**Proof sketch.** Induction on the length of the contents, run by run. Only four equal bytes without
a count are no run that takes its share of the contents. -/
lemma remainder_of_holdsBefore {o : Output} {w : Bytes} {y z : UInt8} (h : o.HoldsBefore [y, z] w) :
    o.remainder = (List.replicate o.pending o.char ++ overrun w y,
      (uncounted w).map fun _ => .dataError) := by
  induction hn : w.length using Nat.strong_induction_on generalizing o w with
  | _ n ih =>
    subst hn
    cases w with
    | nil =>
      have hused : o.used = o.readable := h
      rw [remainder_eq, if_neg (by omega), if_pos hused]
      simp [overrun, uncounted, spread]
    | cons a w =>
      have hused := h.2.1
      rw [remainder_eq, if_neg (by omega), if_neg (by omega)]
      by_cases hw : w = [a, a, a]
      · subst hw
        obtain ⟨o', hrun, rfl, hpending, hbeyond⟩ := startRun_of_uncounted h
        rw [hrun, uncounted_four, overrun_four, ← hpending]
        simp only [remainder_eq o', if_pos hbeyond, Option.map_some]
      · obtain ⟨o', hrun, -, rest, hrest, hbegins⟩ := startRun_of_holdsBefore h hw
        rw [hrun, hbegins.overrun_eq, hbegins.spread_eq.2]
        simp only [ih _ hbegins.length_lt hrest rfl]

/-! ## Buffers -/

/-- Write the block into a buffer: the block afterwards, and what was written. -/
def pour (o : Output) (room : Nat) : Except Status (Output × Bytes) :=
  if room < o.pending then
    .ok ({ o with pending := o.pending - room }, List.replicate room o.char)
  else if o.readable < o.used then .error .dataError
  else if o.used = o.readable then .ok ({ o with pending := 0 }, List.replicate o.pending o.char)
  else
    match _h : o.startRun with
    | .error s => .error s
    | .ok o' =>
      (o'.pour (room - o.pending)).map fun p => (p.1, List.replicate o.pending o.char ++ p.2)
termination_by o.readable - o.used
decreasing_by
  obtain ⟨hc, hu, -⟩ := startRun_eq_ok _h
  simp only [readable, hc] at *
  omega

/-- The output pours out a run, goes on with the next one, or ends. -/
lemma pour_eq (o : Output) (room : Nat) :
    o.pour room =
      if room < o.pending then
        .ok ({ o with pending := o.pending - room }, List.replicate room o.char)
      else if o.readable < o.used then .error .dataError
      else if o.used = o.readable then
        .ok ({ o with pending := 0 }, List.replicate o.pending o.char)
      else
        match o.startRun with
        | .error s => .error s
        | .ok o' =>
          (o'.pour (room - o.pending)).map fun p =>
            (p.1, List.replicate o.pending o.char ++ p.2) := by
  rw [pour]
  refine ite_congr rfl (fun _ => rfl) fun _ => ite_congr rfl (fun _ => rfl) fun _ =>
    ite_congr rfl (fun _ => rfl) fun _ => ?_
  split <;> simp_all

/-- Write the block into one buffer after the other, unless it is found to be corrupt: the block
afterwards, and what was written into each of them. -/
def pours (o : Output) : (rooms : List Nat) → Except Status (Output × List Bytes)
  | [] => .ok (o, [])
  | room :: rooms =>
    match o.pour room with
    | .error s => .error s
    | .ok (o, x) => (o.pours rooms).map fun p => (p.1, x :: p.2)

/-- The whole block was read, and nothing is left of its last run. -/
def Complete (o : Output) : Prop :=
  o.used = o.readable ∧ o.pending = 0

/-- Whether the output is complete can be computed. -/
instance (o : Output) : Decidable o.Complete :=
  inferInstanceAs (Decidable (_ ∧ _))

/-- What the caller makes of a buffer, behind what was `written` before: its room is used up, unless
the block is complete. -/
def Drained.ofPour (room : Nat) (written : Array UInt8) : Except Status (Output × Bytes) → Drained
  | .error s => .corrupt s
  | .ok (o, x) =>
    if o.Complete then .finished (room - x.length) (written ++ x.toArray)
    else .suspended o (written ++ x.toArray)

/-- **Writing a block and looking whether it is complete.** -/
lemma drain_eq_pour (o : Output) (room : Nat) (written : Array UInt8) :
    o.drain room written = Drained.ofPour room written (o.pour room) := by
  fun_induction drain o room written with
  | case1 o room written hroom =>
    rw [pour_eq, if_pos hroom, Drained.ofPour, if_neg]
    · simp
    · simp only [Complete, not_and]
      omega
  | case2 o room written hroom hlt => rw [pour_eq, if_neg hroom, if_pos hlt, Drained.ofPour]
  | case3 o room written hroom hlt heq =>
    rw [pour_eq, if_neg hroom, if_neg hlt, if_pos heq, Drained.ofPour, if_pos ⟨heq, rfl⟩]
    simp
  | case4 o room written hroom hlt hne s hs =>
    rw [pour_eq, if_neg hroom, if_neg hlt, if_neg hne, hs, Drained.ofPour]
  | case5 o room written hroom hlt hne o₁ h₁ ih =>
    have hpour : o.pour room =
        (o₁.pour (room - o.pending)).map fun p =>
          (p.1, List.replicate o.pending o.char ++ p.2) := by
      rw [pour_eq, if_neg hroom, if_neg hlt, if_neg hne, h₁]
    rw [ih, hpour]
    cases o₁.pour (room - o.pending) with
    | error s => rfl
    | ok p =>
      have harray : (List.replicate o.pending o.char ++ p.2).toArray =
          Array.replicate o.pending o.char ++ p.2.toArray := by simp
      simp only [Except.map, Drained.ofPour, harray, List.length_append, List.length_replicate,
        Nat.sub_sub, Array.append_assoc]

/-- A buffer leaves the cells of a block alone, and does not end between two runs. -/
lemma cells_of_pour {o o' : Output} {room : Nat} {x : Bytes} (h : o.pour room = .ok (o', x)) :
    o'.cells = o.cells ∧ (o'.Complete ∨ 0 < o'.pending) := by
  fun_induction pour o room generalizing o' x with
  | case1 o room hroom =>
    cases h
    exact ⟨rfl, .inr (Nat.sub_pos_of_lt hroom)⟩
  | case2 => cases h
  | case3 o room hroom hlt heq =>
    cases h
    exact ⟨rfl, .inl ⟨heq, rfl⟩⟩
  | case4 => cases h
  | case5 o room hroom hlt hne o₁ h₁ ih =>
    cases hp : o₁.pour (room - o.pending) with
    | error s =>
      rw [hp] at h
      cases h
    | ok p =>
      rw [hp] at h
      cases h
      obtain ⟨hcells, hleft⟩ := ih hp
      exact ⟨hcells.trans (startRun_eq_ok h₁).1, hleft⟩

/-- A block that cannot be continued ends in that failure. -/
lemma remainder_of_pour_error {o : Output} {room : Nat} {s : Status} (h : o.pour room = .error s) :
    ∃ x, o.remainder = (x, some s) := by
  have hdrain := remainder_of_drain o room #[]
  rw [drain_eq_pour, h] at hdrain
  exact hdrain

/-- What a buffer takes of a block: all that is left of it, or as much as there is room for. -/
lemma remainder_of_pour {o o' : Output} {room : Nat} {x : Bytes} (h : o.pour room = .ok (o', x)) :
    (o'.Complete ∧ x.length ≤ room ∧ o.remainder = (x, none)) ∨
      (0 < o'.pending ∧ x.length = room ∧ o.remainder = (x ++ o'.remainder.1, o'.remainder.2)) := by
  have hdrain := remainder_of_drain o room #[]
  rw [drain_eq_pour, h, Drained.ofPour] at hdrain
  by_cases hcomplete : o'.Complete
  · rw [if_pos hcomplete] at hdrain
    obtain ⟨x', hx, hlen, hremainder⟩ := hdrain
    obtain rfl : x = x' := by simpa using hx
    exact .inl ⟨hcomplete, by omega, hremainder⟩
  · rw [if_neg hcomplete] at hdrain
    obtain ⟨x', hx, hlen, hremainder⟩ := hdrain
    obtain rfl : x = x' := by simpa using hx
    exact .inr ⟨(cells_of_pour h).2.resolve_left hcomplete, hlen, hremainder⟩

/-- The current run is still to be written. -/
lemma pending_le_remainder (o : Output) : o.pending ≤ o.remainder.1.length := by
  have h : o.remainder = (List.replicate o.pending o.char ++ { o with pending := 0 }.remainder.1,
      { o with pending := 0 }.remainder.2) := remainder_setPending o o.pending 0
  rw [h, List.length_append, List.length_replicate]
  exact Nat.le_add_right _ _

/-- How writing a block into buffers ends: it fails, or it is complete, and `x` was written, no more
into each buffer than it has room for. -/
def EndsIn (o : Output) (rooms : List Nat) (x : Bytes) : Option Status → Prop
  | none => ∃ o' xs, o.pours rooms = .ok (o', xs) ∧ xs.flatten = x ∧
      List.Forall₂ (fun x room => x.length ≤ room) xs rooms ∧ o'.cells = o.cells ∧ o'.Complete
  | some s => o.pours rooms = .error s

/-- One buffer before the others. -/
lemma endsIn_cons {o o' : Output} {room : Nat} {rooms : List Nat} {x y : Bytes} {s : Option Status}
    (hp : o.pour room = .ok (o', y)) (hy : y.length ≤ room) (h : o'.EndsIn rooms x s) :
    o.EndsIn (room :: rooms) (y ++ x) s := by
  cases s with
  | none =>
    obtain ⟨o₂, xs, hpours, rfl, hfit, hcells, hcomplete⟩ := h
    refine ⟨o₂, y :: xs, ?_, rfl, .cons hy hfit, hcells.trans (cells_of_pour hp).1, hcomplete⟩
    simp only [pours, hp, hpours, Except.map]
  | some s =>
    have h : o'.pours rooms = .error s := h
    simp only [EndsIn, pours, hp, h, Except.map]

/-- Nothing more is written of a complete block. -/
lemma endsIn_of_complete {o : Output} (h : o.Complete) (rooms : List Nat) :
    o.EndsIn rooms [] none := by
  induction rooms with
  | nil => exact ⟨o, [], rfl, rfl, .nil, rfl, h⟩
  | cons room rooms ih =>
    have hsame : { o with pending := 0 } = o := by rw [← h.2]
    have hpour : o.pour room = .ok (o, []) := by
      rw [pour_eq, h.2, if_neg (Nat.not_lt_zero room), if_neg (by rw [h.1]; omega),
        if_pos h.1, hsame]
      rfl
    exact endsIn_cons hpour (Nat.zero_le room) ih

/-- **Buffers with enough room** take all that is left of a block, each byte once and in order, or
find in which failure it ends.

**Proof sketch.** Induction on the buffers. One that does not complete the block is filled, and the
block goes on where it ends (`remainder_of_pour`); there is something left, which the other buffers
have room for. -/
lemma endsIn_of_remainder {o : Output} {rooms : List Nat} {x : Bytes} {s : Option Status}
    (h : o.remainder = (x, s)) (hx : 0 < x.length) (hrooms : x.length ≤ rooms.sum) :
    o.EndsIn rooms x s := by
  induction rooms generalizing o x with
  | nil => exact absurd hrooms (Nat.not_le.2 hx)
  | cons room rooms ih =>
    cases hp : o.pour room with
    | error s' =>
      obtain ⟨x', hx'⟩ := remainder_of_pour_error hp
      cases h.symm.trans hx'
      simp only [EndsIn, pours, hp]
    | ok p =>
      obtain ⟨o', y⟩ := p
      rcases remainder_of_pour hp with ⟨hcomplete, hlen, hx'⟩ | ⟨hpending, hlen, hx'⟩
      · cases h.symm.trans hx'
        simpa using endsIn_cons hp hlen (endsIn_of_complete hcomplete rooms)
      · cases h.symm.trans hx'
        have hleft := pending_le_remainder o'
        rw [List.length_append, List.sum_cons] at hrooms
        exact endsIn_cons hp hlen.le (ih rfl (by omega) (by omega))

/-! ## The contents of a block -/

/-- From a cell of a sound block the links lead on and on. -/
lemma follows_of_sound {o : Output} (h : o.Sound) (n : Nat) :
    ∃ bs : Bytes, bs.length = n ∧ Follows o.cells o.pos bs := by
  induction n generalizing o with
  | zero => exact ⟨[], rfl, trivial⟩
  | succ n ih =>
    have hcell : o.cells[o.pos]? = some (nth o.cells o.pos) := getElem?_eq_nth h.pos_lt
    have hlink := h.link_lt _ (Array.mem_of_getElem? hcell)
    obtain ⟨bs, hlen, hf⟩ := ih (o := { o with pos := (nth o.cells o.pos).link })
      ⟨hlink, h.link_lt, h.size_le⟩
    refine ⟨(nth o.cells o.pos).byte :: bs, by rw [List.length_cons, hlen], ?_⟩
    exact ⟨Nat.lt_of_lt_of_le h.pos_lt h.size_le, _, hcell, rfl, hf⟩

/-- A block of which one byte was read holds the bytes that can be read from it. -/
lemma holdsBefore_of_reads {o o₁ : Output} (ho : o.Sound) (hused : o.used = 1) {bs w : Bytes}
    {y : UInt8} (hreads : o.reads o.cells.size = .ok (bs, o₁)) (hw : o.ahead :: bs = w ++ [y]) :
    w ≠ [] ∧ ∃ z, o.HoldsBefore [y, z] w := by
  have hpos := ho.pos_lt
  obtain ⟨cs, hlen, hf⟩ := follows_of_sound ho (o.cells.size + 1)
  rcases List.eq_nil_or_concat cs with rfl | ⟨ds, z, rfl⟩
  · simp at hlen
  rw [List.concat_eq_append] at hlen hf
  obtain ⟨pos, hds, -⟩ := reads_of_follows hf
  have hsize : ds.length = o.cells.size := by simpa using hlen
  rw [hsize, hreads] at hds
  cases hds
  cases w with
  | nil =>
    obtain ⟨-, rfl⟩ := List.cons.inj hw
    rw [List.length_nil] at hsize
    omega
  | cons a w =>
    obtain ⟨ha, hbs⟩ := List.cons.inj hw
    obtain rfl : bs = w ++ [y] := hbs
    refine ⟨List.cons_ne_nil a w, z, ha.symm, ?_, ?_⟩
    · rw [List.length_append, List.length_singleton] at hsize
      rw [hused, readable]
      omega
    · rwa [List.append_assoc] at hf

/-- **Writing a block into buffers.** Take a block of which one byte was read, the contents `w` that
its links lead through, and the byte `y` behind them. In whatever buffers that have room enough in
all, the block is found to be corrupt if and only if the count of its last run is missing. Otherwise
what its contents stand for is written, each byte once and in order; then the whole block was read,
and no copy of a run is left. -/
theorem pours_eq_spread {o o₁ : Output} (ho : o.Sound) (hused : o.used = 1)
    (hpending : o.pending = 0) {bs w : Bytes} {y : UInt8}
    (hreads : o.reads o.cells.size = .ok (bs, o₁)) (hw : o.ahead :: bs = w ++ [y])
    {rooms : List Nat} (hrooms : (overrun w y).length ≤ rooms.sum) :
    (∀ (o : Output) room written,
      o.drain room written = Drained.ofPour room written (o.pour room)) ∧
      (o.pours rooms = .error .dataError ↔ (uncounted w).isSome) ∧
      (uncounted w = none → ∃ o' xs, o.pours rooms = .ok (o', xs) ∧ xs.flatten = (spread none w).1 ∧
        List.Forall₂ (fun x room => x.length ≤ room) xs rooms ∧
        o'.used = o.cells.size + 1 ∧ o'.pending = 0) := by
  obtain ⟨hne, z, hholds⟩ := holdsBefore_of_reads ho hused hreads hw
  have hremainder := remainder_of_holdsBefore hholds
  rw [hpending, List.replicate_zero, List.nil_append] at hremainder
  have hpos : 0 < (overrun w y).length := by
    obtain ⟨a, w, rfl⟩ := List.exists_cons_of_ne_nil hne
    simp [overrun, spread, OpenRun.read]
  have hends := endsIn_of_remainder hremainder hpos hrooms
  refine ⟨drain_eq_pour, ?_⟩
  cases hcount : uncounted w with
  | none =>
    have hall : overrun w y = (spread none w).1 := by
      rw [overrun, hcount, Option.elim_none, List.append_nil]
    rw [hcount, hall] at hends
    obtain ⟨o', xs, hpours, hxs, hfit, hcells, hread, hleft⟩ := hends
    rw [hpours]
    refine ⟨iff_of_false (by simp) (by simp), fun _ => ⟨o', xs, rfl, hxs, hfit, ?_, hleft⟩⟩
    rw [hread, readable, hcells]
  | some a =>
    rw [hcount] at hends
    exact ⟨iff_of_true hends rfl, fun h => absurd h (Option.some_ne_none a)⟩

/-- A block whose cells are linked in the order of its contents, the last one to the first one. Its
first byte was read. -/
def ring (contents : Bytes) : Output where
  cells := (contents.mapIdx fun i b => (Cell.ofByte b).withLink ((i + 1) % contents.length)).toArray
  char := 0
  pending := 0
  used := 1
  ahead := contents.headD 0
  pos := 1 % contents.length

/-- A block whose cells form a ring is sound. -/
lemma sound_ring {w : Bytes} (hw : w ≠ []) (hn : w.length ≤ maxBlock) : (ring w).Sound := by
  have hpos := List.length_pos_of_ne_nil hw
  have hsize : (ring w).cells.size = w.length := by simp [ring]
  have hmax : maxBlock < 2 ^ 24 := by decide
  refine ⟨hsize ▸ Nat.mod_lt 1 hpos, fun c hc => ?_, hsize ▸ hn⟩
  obtain ⟨i, hi, rfl⟩ := List.mem_mapIdx.1 (List.mem_toArray.1 hc)
  have hlt : (i + 1) % w.length < w.length := Nat.mod_lt _ hpos
  rw [hsize, Cell.link_withLink (Cell.link_ofByte _) (by omega)]
  exact hlt

/-- Four equal bytes and a count, in buffers that end inside the run; and four equal bytes at the
end, after which the first byte is taken for the count. -/
theorem pours_of_two_rings :
    (∃ o' xs, (ring [5, 5, 5, 5, 3, 9]).pours [2, 0, 4, 3] = .ok (o', xs) ∧
        xs.flatten = [5, 5, 5, 5, 5, 5, 5, 9] ∧
        List.Forall₂ (fun x room => x.length ≤ room) xs [2, 0, 4, 3] ∧ o'.used = 7 ∧
          o'.pending = 0) ∧
      (ring [9, 5, 5, 5, 5]).pours [10, 4] = .error .dataError := by
  have hreads : (ring [5, 5, 5, 5, 3, 9]).reads 6 = .ok ([5, 5, 5, 3, 9, 5], _) := rfl
  have hreads' : (ring [9, 5, 5, 5, 5]).reads 5 = .ok ([5, 5, 5, 5, 9], _) := rfl
  have hroom : (overrun [5, 5, 5, 5, 3, 9] 5).length ≤ [2, 0, 4, 3].sum := by decide
  have hroom' : (overrun [9, 5, 5, 5, 5] 9).length ≤ [10, 4].sum := by decide
  have hcounted := pours_eq_spread (sound_ring (by decide) (by decide)) rfl rfl hreads rfl hroom
  have huncounted := pours_eq_spread (sound_ring (by decide) (by decide)) rfl rfl hreads' rfl hroom'
  exact ⟨hcounted.2.2 (by decide), huncounted.2.1.2 (by decide)⟩

end Output

end Nsis.Bzip2
