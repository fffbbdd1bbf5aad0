import Mathlib.Data.List.Basic
import Mathlib.Order.Nat
import Nsis.Formula.Memory

/-!
# Computations with a memory

What formulas compute, they compute with a memory, and any step may fail. Most steps that matter for
a report do nothing to the memory, and those that build it only ever add to it. Both facts are kept
by sequences and by lists of computations, so they are proved once for the smallest steps.

## Main definitions

* `Nsis.Evaluation.Gives` — a computation gives a result and leaves its memory as it is.
* `Nsis.Memory.Extends` — a memory has all that another one has.
* `Nsis.Evaluation.Extending` — a computation succeeds with every memory and only adds to it.

## Main results

* `Nsis.Evaluation.Gives.bind`, `Nsis.Evaluation.Gives.mapM` — sequences that leave their memory.
* `Nsis.Evaluation.Extending.store` — data are stored without a fault, whatever they are.
* `Nsis.Evaluation.forall₂_of_mapM` — what the computations of a list give.
-/

namespace Nsis

/-! ## Memories with more in them -/

namespace Memory

/-- A memory that has kept more than another one, and all that this one has. -/
structure Extends (m m' : Memory) : Prop where
  /-- There are at least as many addresses. -/
  size_le : m.objects.size ≤ m'.objects.size
  /-- At the old ones stands what stood there. -/
  object_eq : ∀ a < m.objects.size, m'.object a = m.object a

namespace Extends

variable {m m' m'' : Memory}

/-- A memory has all that it has. -/
lemma refl (m : Memory) : m.Extends m :=
  ⟨le_rfl, fun _ _ => rfl⟩

/-- What was kept stays when more is kept. -/
lemma trans (h : m.Extends m') (h' : m'.Extends m'') : m.Extends m'' where
  size_le := h.size_le.trans h'.size_le
  object_eq a ha := (h'.object_eq a (ha.trans_le h.size_le)).trans (h.object_eq a ha)

/-- Data that were kept are there still. -/
lemma content_eq (h : m.Extends m') {a : Nat} (ha : a < m.objects.size) :
    m'.content a = m.content a := by
  rw [content, content, h.object_eq a ha]

end Extends

end Memory

namespace Evaluation

variable {α β : Type} {m m' : Memory}

/-! ## Runs of sequences -/

/-- Behind a value, the rest of a sequence runs with the memory that is left. -/
lemma run_bind_of_ok {x : Evaluation α} {f : α → Evaluation β} {a : α}
    (h : x.run.run m = (.ok a, m')) : (x >>= f).run.run m = (f a).run.run m' := by
  rw [ExceptT.run_bind, StateT.run_bind, h]
  rfl

/-- A sequence gives a value only if both of its parts do. -/
lemma exists_of_run_bind {x : Evaluation α} {f : α → Evaluation β} {b : β}
    (h : (x >>= f).run.run m = (.ok b, m')) :
    ∃ a m'', x.run.run m = (.ok a, m'') ∧ (f a).run.run m'' = (.ok b, m') := by
  rw [ExceptT.run_bind, StateT.run_bind] at h
  rcases hx : x.run.run m with ⟨r, m''⟩
  rw [hx] at h
  cases r with
  | error e => cases congrArg Prod.fst h
  | ok a => exact ⟨a, m'', rfl, h⟩

/-- What computations give for the items of a list is related to the items if the value of each one
is, with whatever memory. -/
lemma forall₂_of_mapM {f : α → Evaluation β} {R : α → β → Prop}
    (hf : ∀ a m b m', (f a).run.run m = (.ok b, m') → R a b) {as : List α} {bs : List β}
    (h : (as.mapM f).run.run m = (.ok bs, m')) : List.Forall₂ R as bs := by
  induction as generalizing bs m m' with
  | nil =>
    obtain rfl : [] = bs := Except.ok.inj (Prod.mk.inj h).1
    exact .nil
  | cons a as ih =>
    rw [List.mapM_cons] at h
    obtain ⟨b, m₁, hb, h⟩ := exists_of_run_bind h
    obtain ⟨bs', m₂, hbs, h⟩ := exists_of_run_bind h
    obtain rfl : b :: bs' = bs := Except.ok.inj (Prod.mk.inj h).1
    exact .cons (hf a m b m₁ hb) (ih hbs)

/-! ## Computations that leave their memory -/

/-- What a computation gives with a memory that it leaves as it is. -/
def Gives (x : Evaluation α) (m : Memory) (r : Except Fault α) : Prop :=
  x.run.run m = (r, m)

namespace Gives

/-- A value is given. -/
lemma pure (a : α) : Gives (pure a) m (.ok a) :=
  rfl

/-- What needs no memory gives what it is. -/
lemma lift (r : Except Fault α) : Gives (liftM r : Evaluation α) m r := by
  cases r <;> rfl

/-- Behind a value, what is made of it is given. -/
lemma bind {x : Evaluation α} {f : α → Evaluation β} {a : α} {r : Except Fault β}
    (hx : x.Gives m (.ok a)) (hf : (f a).Gives m r) : (x >>= f).Gives m r :=
  (run_bind_of_ok hx).trans hf

/-- Behind a fault, the fault is given. -/
lemma bind_error {x : Evaluation α} {f : α → Evaluation β} {e : Fault}
    (hx : x.Gives m (.error e)) : (x >>= f).Gives m (.error e) := by
  rw [Gives, ExceptT.run_bind, StateT.run_bind, hx]
  rfl

/-- The values of a list are given if each one is. -/
lemma mapM {f : α → Evaluation β} {g : α → β} (h : ∀ a, (f a).Gives m (.ok (g a)))
    (as : List α) : (as.mapM f).Gives m (.ok (as.map g)) := by
  induction as with
  | nil => exact .pure []
  | cons a as ih =>
    rw [List.mapM_cons]
    exact (h a).bind (ih.bind (.pure _))

/-- A memory that is changed to what it is, is left as it is. -/
lemma of_modify {f : Memory → Memory} (h : f m = m) : Gives (modify f) m (.ok ()) := by
  show (Except.ok (), f m) = _
  rw [h]

/-- An entry of a record is given. -/
lemma entryAt? {a : Nat} {keys values : List Datum} (h : m.content a = .record keys values)
    (s : String) : Gives (Evaluation.entryAt? a s) m (.ok ( namedEntry? s keys values)) := by
  have hget : Gives MonadState.get m (.ok m) := rfl
  refine hget.bind ?_
  rw [h]
  exact pure _

end Gives

/-! ## Computations that add to their memory -/

/-- A computation succeeds with every memory, and only keeps more in it. -/
def Extending (x : Evaluation α) : Prop :=
  ∀ m, ∃ a m', x.run.run m = (.ok a, m') ∧ m.Extends m'

namespace Extending

/-- A value is there at once. -/
lemma pure (a : α) : Extending (pure a) :=
  fun m => ⟨a, m, rfl, .refl m⟩

/-- Computations that keep more, one behind the other, keep more. -/
lemma bind {x : Evaluation α} {f : α → Evaluation β} (hx : x.Extending)
    (hf : ∀ a, (f a).Extending) : (x >>= f).Extending := by
  intro m
  obtain ⟨a, m', hrun, hm⟩ := hx m
  obtain ⟨b, m'', hrun', hm'⟩ := hf a m'
  exact ⟨b, m'', (run_bind_of_ok hrun).trans hrun', hm.trans hm'⟩

/-- A list of computations that keep more keeps more. -/
lemma mapM {f : α → Evaluation β} (hf : ∀ a, (f a).Extending) (as : List α) :
    (as.mapM f).Extending := by
  induction as with
  | nil => exact .pure []
  | cons a as ih =>
    rw [List.mapM_cons]
    exact (hf a).bind fun b => ih.bind fun bs => .pure (b :: bs)

/-- Keeping something at a new address keeps more. -/
lemma allocate (o : Object) : (allocate o).Extending := by
  intro m
  refine ⟨m.objects.size, { m with objects := m.objects.push o }, rfl, ?_, ?_⟩
  · simp
  · intro a ha
    have ha' : a < m.objects.size + 1 := Nat.lt_succ_of_lt ha
    simp [Memory.object, Array.getD, ha, ha', Array.getElem_push_lt]

/-- Keeping data at a new address keeps more. -/
lemma allocated (d : Datum) : (allocated d).Extending :=
  (allocate (.data d)).bind fun a => .pure (Datum.shared a)

/-- Keeping a stream at a new address keeps more. -/
lemma streaming (kind : String) (s : Stream) : (streaming kind s).Extending :=
  (allocate (.stream kind s)).bind fun a => .pure (Datum.shared a)

/-- Data are stored without a fault.

**Proof sketch.** Induction on how deep they are looked into. There is a case for each kind of
group; a group first stores its items, which are one step less deep, and then itself. -/
lemma store (fuel : Nat) (d : Datum) : (store fuel d).Extending := by
  induction fuel generalizing d with
  | zero => exact .pure d
  | succ fuel ih =>
    have hitems (ds : List Datum) : (ds.mapM (Evaluation.store fuel)).Extending := .mapM ih ds
    have hparts (own : Names) : (own.mapM fun ((s, p) : String × Datum) => do
        return (s, ← Evaluation.store fuel p)).Extending :=
      .mapM (fun p => (ih p.2).bind fun d => .pure (p.1, d)) own
    unfold Evaluation.store
    split
    · exact (hitems _).bind fun ds => .allocated (.list ds)
    · exact .allocated _
    · exact .allocated _
    · exact (hitems _).bind fun ds => .allocated (.record _ ds)
    · exact (hitems _).bind fun ds => .pure (Datum.tuple ds)
    · dsimp only
      split
      · exact .pure _
      · exact (hitems _).bind fun ds => (hparts _).bind fun own => .allocated (.entry _ ds own)
    · exact (hitems _).bind fun ds => .streaming _ (.items ds)
    · next kind name own =>
      -- things without a name are kept at an address, others are not
      have hthing := (hparts own).bind (f := fun own => if name.isEmpty then
          Evaluation.allocated (.thing kind name own) else return .thing kind name own)
        fun own => by
          split
          · exact .allocated _
          · exact .pure _
      dsimp only
      split
      · exact .pure _
      · split
        · split
          · exact .pure _
          · exact hthing
        · exact hthing
    · dsimp only
      split
      · exact .allocated _
      · exact .pure _

end Extending

end Evaluation

end Nsis
