import Mathlib.Data.List.Basic
import Mathlib.Tactic.SplitIfs
import Nsis.Proofs.Bzip2.Verdict

/-!
# The expansion of a block

The contents of a block stand for more bytes than they have: four equal bytes are followed by a
count of further copies. A block whose links lead through its contents is written as their
expansion.

## Main definitions

* `Nsis.Bzip2.expand` — what the contents of a block stand for.
* `Nsis.Bzip2.Begins` — the run that contents begin with.
* `Nsis.Bzip2.Follows` — the bytes to which the links of a block lead.
* `Nsis.Bzip2.Output.Holds` — the contents that a block still holds while it is written.

## Main results

* `Nsis.Bzip2.Output.startRun_of_holdsBefore` — a run takes its share of the contents.
* `Nsis.Bzip2.Output.remainder_of_holds` — a block is written as the expansion of its contents.
-/

namespace Nsis.Bzip2

/-! ## What contents stand for -/

/-- What the contents of a block stand for, if each four equal bytes are followed by a count. -/
def expand : Bytes → Option Bytes
  | a :: b :: c :: d :: rest =>
    if a = b ∧ a = c ∧ a = d then
      match rest with
      | [] => none
      | n :: rest => (expand rest).map (List.replicate (n.toNat + 4) a ++ ·)
    else (expand (b :: c :: d :: rest)).map (a :: ·)
  | contents => some contents

/-- Four equal bytes and a count. -/
lemma expand_count (a n : UInt8) (w : Bytes) :
    expand (a :: a :: a :: a :: n :: w) = (expand w).map (List.replicate (n.toNat + 4) a ++ ·) := by
  rw [expand, if_pos ⟨rfl, rfl, rfl⟩]

/-- A byte that does not begin four equal ones stands for itself. -/
lemma expand_cons {a : UInt8} {w : Bytes} (h : ¬ [a, a, a] <+: w) :
    expand (a :: w) = (expand w).map (a :: ·) := by
  match w with
  | [] => rfl
  | [b] => rfl
  | [b, c] => rfl
  | b :: c :: d :: rest =>
    have hne : ¬ (a = b ∧ a = c ∧ a = d) := by
      rintro ⟨rfl, rfl, rfl⟩
      exact h (List.prefix_append [a, a, a] rest)
    cases rest <;> rw [expand, if_neg hne]

/-- Up to three equal bytes before a different one stand for themselves. -/
lemma expand_replicate_append {a : UInt8} {w : Bytes} {k : Nat} (hk : k ≤ 3)
    (hw : w.head? ≠ some a) :
    expand (List.replicate k a ++ w) = (expand w).map (List.replicate k a ++ ·) := by
  induction k with
  | zero => simp
  | succ k ih =>
    have hrun : ¬ [a, a, a] <+: List.replicate k a ++ w := by
      -- the byte after the `k` others would be the first one of `w`
      rintro ⟨t, ht⟩
      have hk' : ([a, a, a] ++ t)[k]? = some a := by
        rcases (by omega : k = 0 ∨ k = 1 ∨ k = 2) with rfl | rfl | rfl <;> rfl
      rw [ht, List.getElem?_append_right (by simp), List.length_replicate, Nat.sub_self,
        ← List.head?_eq_getElem?] at hk'
      exact hw hk'
    rw [List.replicate_succ, List.cons_append, expand_cons hrun, ih (by omega), Option.map_map]
    rfl

/-- Contents that begin with a run of `a`, which stands for some copies of it: up to three bytes
before one that differs or the end, or four bytes and a count. -/
inductive Begins (a : UInt8) : (copies : Nat) → (contents rest : Bytes) → Prop
  | short {k : Nat} (rest : Bytes) (hk : 0 < k ∧ k ≤ 3) (hrest : rest.head? ≠ some a) :
      Begins a k (List.replicate k a ++ rest) rest
  | counted (n : UInt8) (rest : Bytes) : Begins a (n.toNat + 4) (a :: a :: a :: a :: n :: rest) rest

namespace Begins

variable {a : UInt8} {copies : Nat} {contents rest : Bytes} (h : Begins a copies contents rest)
include h

/-- Less is left behind a run than there was. -/
lemma length_lt : rest.length < contents.length := by
  cases h with
  | short rest hk hrest =>
    rw [List.length_append, List.length_replicate]
    omega
  | counted n rest =>
    simp only [List.length_cons]
    omega

/-- Expanding puts out the run, and then what is left. -/
lemma expand_eq : expand contents = (expand rest).map (List.replicate copies a ++ ·) := by
  cases h with
  | short rest hk hrest => exact expand_replicate_append hk.2 hrest
  | counted n rest => exact expand_count a n rest

end Begins

/-! ## Where links lead -/

/-- The links of a block lead from the cell `pos` through the given bytes. -/
def Follows (cells : Array Cell) : (pos : Nat) → Bytes → Prop
  | _, [] => True
  | pos, b :: bs =>
    pos < maxBlock ∧ ∃ c, cells[pos]? = some c ∧ c.byte = b ∧ Follows cells c.link bs

namespace Output

/-- A byte to which the links lead can be read. -/
lemma next_of_follows {o : Output} {b : UInt8} {bs : Bytes} (h : Follows o.cells o.pos (b :: bs)) :
    ∃ pos, o.next = .ok (b, { o with pos := pos, used := o.used + 1 }) ∧
      Follows o.cells pos bs := by
  obtain ⟨hpos, c, hc, rfl, hbs⟩ := h
  refine ⟨c.link, ?_, hbs⟩
  rw [next, if_neg (by omega), hc]

/-- The contents that a block still holds, from the byte that begins the next run on. The byte that
the links lead to after them is read, but never written. -/
def Holds (o : Output) : Bytes → Prop
  | [] => o.used = o.readable
  | a :: w =>
    a = o.ahead ∧ o.used + w.length + 1 = o.readable ∧ ∃ z, Follows o.cells o.pos (w ++ [z])

/-- As `Holds`, with the bytes to which the links lead after the contents. -/
def HoldsBefore (o : Output) (after : Bytes) : Bytes → Prop
  | [] => o.used = o.readable
  | a :: w => a = o.ahead ∧ o.used + w.length + 1 = o.readable ∧ Follows o.cells o.pos (w ++ after)

/-- Where contents are held, there is some byte before them. -/
lemma Holds.exists_before {o : Output} {w : Bytes} (h : o.Holds w) : ∃ z, o.HoldsBefore [z] w := by
  cases w with
  | nil => exact ⟨0, h⟩
  | cons a w =>
    obtain ⟨ha, hused, z, hf⟩ := h
    exact ⟨z, ha, hused, hf⟩

/-- What a run takes from the contents of a block: it writes the beginning of what they stand for,
and the block holds the rest. -/
def TakesRun (o o' : Output) (after contents : Bytes) : Prop :=
  o'.cells = o.cells ∧ ∃ rest, o'.HoldsBefore after rest ∧ Begins o'.char o'.pending contents rest

/-- A run of up to three bytes, before a byte that differs or the end. -/
lemma takesRun_of_short {o o' : Output} {a : UInt8} {after : Bytes} (k : Nat) (rest : Bytes)
    (hk : 0 < k ∧ k ≤ 3) (hrest : rest.head? ≠ some a) (hcells : o'.cells = o.cells)
    (hchar : o'.char = a) (hpending : o'.pending = k) (hholds : o'.HoldsBefore after rest) :
    TakesRun o o' after (List.replicate k a ++ rest) := by
  subst hchar hpending
  exact ⟨hcells, rest, hholds, .short rest hk hrest⟩

/-- **A run takes its share of the contents**, unless they are four equal bytes without a count.

**Proof sketch.** The cases are those of the run: it ends after one, two or three bytes, because the
next one differs or because there is none; or it has four bytes and a count. -/
lemma startRun_of_holdsBefore {o : Output} {a z : UInt8} {w after : Bytes}
    (h : o.HoldsBefore (z :: after) (a :: w)) (hw : w ≠ [a, a, a]) :
    ∃ o', o.startRun = .ok o' ∧ TakesRun o o' (z :: after) (a :: w) := by
  obtain ⟨rfl, hused, hf⟩ := h
  simp only [startRun, bind, Except.bind]
  cases w with
  | nil =>
    obtain ⟨p₁, h₁, -⟩ := next_of_follows hf
    simp only [h₁]
    split_ifs with hz hend
    · exact ⟨_, rfl, takesRun_of_short 1 [] (by decide) (by simp) rfl rfl rfl hused⟩
    · exact ⟨_, rfl, takesRun_of_short 1 [] (by decide) (by simp) rfl rfl rfl hused⟩
    · exact absurd hused hend
  | cons b w =>
    obtain ⟨p₁, h₁, hf₁⟩ := next_of_follows hf
    simp only [readable, List.length_cons] at hused
    simp only [h₁]
    split_ifs with hb hend
    · exact ⟨_, rfl, takesRun_of_short 1 (b :: w) (by decide) (by simpa using hb) rfl rfl rfl
        ⟨rfl, by simp only [readable]; omega, hf₁⟩⟩
    · simp only [readable] at hend
      omega
    obtain rfl : b = o.ahead := not_not.1 hb
    cases w with
    | nil =>
      obtain ⟨p₂, h₂, -⟩ := next_of_follows (o := { o with pos := p₁, used := o.used + 1 }) hf₁
      simp only [h₂]
      exact ⟨_, if_pos hused, takesRun_of_short 2 [] (by decide) (by simp) rfl rfl rfl hused⟩
    | cons b w =>
      obtain ⟨p₂, h₂, hf₂⟩ := next_of_follows (o := { o with pos := p₁, used := o.used + 1 }) hf₁
      simp only [List.length_cons] at hused
      simp only [h₂]
      split_ifs with hend hb
      · simp only [readable] at hend
        omega
      · exact ⟨_, rfl, takesRun_of_short 2 (b :: w) (by decide) (by simpa using hb) rfl rfl rfl
          ⟨rfl, by simp only [readable]; omega, hf₂⟩⟩
      obtain rfl : b = o.ahead := not_not.1 hb
      cases w with
      | nil =>
        obtain ⟨p₃, h₃, -⟩ :=
          next_of_follows (o := { o with pos := p₂, used := o.used + 1 + 1 }) hf₂
        simp only [h₃]
        exact ⟨_, if_pos hused, takesRun_of_short 3 [] (by decide) (by simp) rfl rfl rfl hused⟩
      | cons b w =>
        obtain ⟨p₃, h₃, hf₃⟩ :=
          next_of_follows (o := { o with pos := p₂, used := o.used + 1 + 1 }) hf₂
        simp only [List.length_cons] at hused
        simp only [h₃]
        split_ifs with hend hb
        · simp only [readable] at hend
          omega
        · exact ⟨_, rfl, takesRun_of_short 3 (b :: w) (by decide) (by simpa using hb) rfl rfl rfl
            ⟨rfl, by simp only [readable]; omega, hf₃⟩⟩
        obtain rfl : b = o.ahead := not_not.1 hb
        -- four equal bytes have to be followed by a count
        cases w with
        | nil => exact absurd rfl hw
        | cons n w =>
          obtain ⟨p₄, h₄, hf₄⟩ :=
            next_of_follows (o := { o with pos := p₃, used := o.used + 1 + 1 + 1 }) hf₃
          simp only [List.length_cons] at hused
          simp only [h₄]
          cases w with
          | nil =>
            obtain ⟨p₅, h₅, -⟩ :=
              next_of_follows (o := { o with pos := p₄, used := o.used + 1 + 1 + 1 + 1 }) hf₄
            simp only [h₅]
            exact ⟨_, rfl, rfl, [], hused, .counted n []⟩
          | cons b w =>
            obtain ⟨p₅, h₅, hf₅⟩ :=
              next_of_follows (o := { o with pos := p₄, used := o.used + 1 + 1 + 1 + 1 }) hf₄
            simp only [List.length_cons] at hused
            simp only [h₅]
            refine ⟨_, rfl, rfl, b :: w, ⟨rfl, ?_, hf₅⟩, .counted n (b :: w)⟩
            simp only [readable]
            omega

/-- **A block is written as the expansion of its contents**, behind what is left of the current
run. -/
theorem remainder_of_holds {o : Output} {w e : Bytes} (h : o.Holds w) (he : expand w = some e) :
    o.remainder = (List.replicate o.pending o.char ++ e, none) := by
  obtain ⟨z, hbefore⟩ := h.exists_before
  clear h
  -- the contents get shorter with each run
  induction hn : w.length using Nat.strong_induction_on generalizing o w e with
  | _ n ih =>
    subst hn
    cases w with
    | nil =>
      obtain rfl : e = [] := by simpa [expand] using he.symm
      have hused : o.used = o.readable := hbefore
      rw [remainder_eq, if_neg (by omega), if_pos hused, List.append_nil]
    | cons a w =>
      have hw : w ≠ [a, a, a] := by
        rintro rfl
        simp [expand] at he
      obtain ⟨o', hrun, -, rest, hrest, hbegins⟩ := startRun_of_holdsBefore hbefore hw
      rw [hbegins.expand_eq] at he
      obtain ⟨e', he', rfl⟩ := Option.map_eq_some_iff.1 he
      have hused := hbefore.2.1
      rw [remainder_eq, if_neg (by omega), if_neg (by omega), hrun]
      simp only [ih _ hbegins.length_lt he' hrest rfl]

end Output

end Nsis.Bzip2
