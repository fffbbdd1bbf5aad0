import Nsis.Fault

/-!
# Traces

A computation that records events while it runs and may end in a fault. What was recorded before a
fault is kept.

## Main definitions

* `Nsis.Trace` — the recorded events, and the result or the fault.
* `Nsis.Trace.emit` — recording one event.
* `Nsis.Trace.ofExcept` — a computation that records nothing.

## Main results

* `Nsis.Trace.events_bind_ok`, `Nsis.Trace.events_bind_error` — what a sequence of two computations
  records.
* `Nsis.Trace.events_each` — what a loop records.
* `Nsis.Trace.mem_events_bind`, `Nsis.Trace.mem_events_each` — where a recorded event comes from.
-/

namespace Nsis

/-- Events of type `ε` in the order in which they were recorded, and how the computation ended. -/
structure Trace (ε α : Type) where
  events : List ε
  result : Except Fault α

namespace Trace

variable {ε α β : Type}

/-- Record nothing and end with a value. -/
def done (a : α) : Trace ε α := ⟨[], .ok a⟩

/-- Go on with the value of a first computation. After a fault nothing more is recorded. -/
def andThen (t : Trace ε α) (f : α → Trace ε β) : Trace ε β :=
  match t.result with
  | .ok a =>
    let u := f a
    ⟨t.events ++ u.events, u.result⟩
  | .error e => ⟨t.events, .error e⟩

/-- Computations follow each other; a fault ends them. -/
instance : Monad (Trace ε) where
  pure := done
  bind := andThen

/-- A computation behind another one is the same however they are grouped. -/
instance : LawfulMonad (Trace ε) := LawfulMonad.mk' (Trace ε)
  (by
    intro α t
    obtain ⟨events, result⟩ := t
    show andThen _ _ = _
    cases result with
    | ok a => simp [andThen, done]
    | error e => rfl)
  (by
    intro α β a f
    show andThen (done a) f = f a
    simp [andThen, done])
  (by
    intro α β γ t f g
    obtain ⟨events, result⟩ := t
    show andThen (andThen _ f) g = andThen _ fun a => andThen (f a) g
    cases result with
    | error e => rfl
    | ok a =>
      simp only [andThen]
      cases (f a).result <;> simp)

/-- Record one event. -/
def emit (e : ε) : Trace ε Unit := ⟨[e], .ok ()⟩

/-- End in a fault. -/
def fail (e : Fault) : Trace ε α := ⟨[], .error e⟩

/-- A computation that records nothing. -/
def ofExcept (r : Except Fault α) : Trace ε α := ⟨[], r⟩

/-- Run a computation for each item of a list, in order. -/
def each (f : α → Trace ε Unit) : List α → Trace ε Unit
  | [] => done ()
  | a :: as => andThen (f a) fun _ => each f as

/-- A computation is made of its events and its result. -/
theorem eq_of_result {t : Trace ε α} {r : Except Fault α} (h : t.result = r) :
    t = ⟨t.events, r⟩ := by
  rw [← h]

/-- Behind a value, the events of both computations are recorded. -/
theorem events_bind_ok {t : Trace ε α} {a : α} (f : α → Trace ε β) (h : t.result = .ok a) :
    (t >>= f).events = t.events ++ (f a).events := by
  show (andThen t f).events = _
  simp [andThen, h]

/-- Behind a fault, only the events of the first computation are recorded. -/
theorem events_bind_error {t : Trace ε α} {e : Fault} (f : α → Trace ε β)
    (h : t.result = .error e) : (t >>= f).events = t.events := by
  show (andThen t f).events = _
  simp [andThen, h]

/-- Two computations succeed if the first does, and the second with its value. -/
theorem bind_result_eq_ok {t : Trace ε α} {f : α → Trace ε β} {b : β} :
    (t >>= f).result = .ok b ↔ ∃ a, t.result = .ok a ∧ (f a).result = .ok b := by
  show (andThen t f).result = _ ↔ _
  cases h : t.result with
  | ok a => simp [andThen, h]
  | error e => simp [andThen, h]

/-- An event of two computations is one of the first, or one of the second if the first succeeds. -/
theorem mem_events_bind {t : Trace ε α} {f : α → Trace ε β} {e : ε} :
    e ∈ (t >>= f).events ↔ e ∈ t.events ∨ ∃ a, t.result = .ok a ∧ e ∈ (f a).events := by
  cases h : t.result with
  | ok a => simp [events_bind_ok f h]
  | error e => simp [events_bind_error f h]

/-- If the first computation succeeds, an event of two is one of either. -/
theorem mem_events_bind_ok {t : Trace ε α} {a : α} (f : α → Trace ε β) (h : t.result = .ok a)
    {e : ε} : e ∈ (t >>= f).events ↔ e ∈ t.events ∨ e ∈ (f a).events := by
  rw [events_bind_ok f h, List.mem_append]

/-- The only event of an emission is the one that is emitted. -/
@[simp] theorem mem_events_emit {e e' : ε} : e ∈ (emit e').events ↔ e = e' := by
  simp [emit]

/-- An emission succeeds. -/
@[simp] theorem result_emit (e : ε) : (emit e).result = .ok () := rfl

/-- A value records nothing. -/
@[simp] theorem events_pure (a : α) : (pure a : Trace ε α).events = [] := rfl

/-- A result from outside records nothing. -/
@[simp] theorem events_ofExcept (r : Except Fault α) : (ofExcept r : Trace ε α).events = [] := rfl

/-- Two computations that record nothing are one. -/
theorem ofExcept_bind (r : Except Fault α) (f : α → Except Fault β) :
    (ofExcept (r >>= f) : Trace ε β) = ofExcept r >>= fun a => ofExcept (f a) := by
  cases r <;> rfl

/-- A loop makes its first round, and then the others. -/
theorem each_cons (f : α → Trace ε Unit) (a : α) (as : List α) :
    each f (a :: as) = f a >>= fun _ => each f as := rfl

/-- A loop over a list and another one behind it is two loops. -/
theorem each_append (f : α → Trace ε Unit) (as bs : List α) :
    each f (as ++ bs) = each f as >>= fun _ => each f bs := by
  induction as with
  | nil =>
    show _ = (pure () : Trace ε Unit) >>= fun _ => each f bs
    rw [List.nil_append, pure_bind]
  | cons a as ih => rw [List.cons_append, each_cons, each_cons, bind_assoc, ih]

/-- A loop over a single item is its only round. -/
theorem each_singleton (f : α → Trace ε Unit) (a : α) : each f [a] = f a := by
  rw [each_cons]
  exact bind_pure (f a)

/-- A loop succeeds if all of its rounds do. -/
theorem result_each {f : α → Trace ε Unit} {as : List α} (h : ∀ a ∈ as, (f a).result = .ok ()) :
    (each f as).result = .ok () := by
  induction as with
  | nil => rfl
  | cons a as ih =>
    rw [each_cons, bind_result_eq_ok]
    exact ⟨(), h a List.mem_cons_self, ih fun b hb => h b (List.mem_cons_of_mem a hb)⟩

/-- An event of a loop is one of its rounds. -/
theorem exists_of_mem_events_each {f : α → Trace ε Unit} {as : List α} {e : ε}
    (h : e ∈ (each f as).events) : ∃ a ∈ as, e ∈ (f a).events := by
  induction as with
  | nil => simp [each, done] at h
  | cons a as ih =>
    rw [each_cons, mem_events_bind] at h
    rcases h with h | ⟨_, -, h⟩
    · exact ⟨a, List.mem_cons_self, h⟩
    · obtain ⟨b, hb, he⟩ := ih h
      exact ⟨b, List.mem_cons_of_mem a hb, he⟩

/-- A loop that succeeds records what its rounds record, one after the other. -/
theorem events_each {f : α → Trace ε Unit} {as : List α} (h : (each f as).result = .ok ()) :
    (each f as).events = as.flatMap fun a => (f a).events := by
  induction as with
  | nil => rfl
  | cons a as ih =>
    rw [each_cons, bind_result_eq_ok] at h
    obtain ⟨u, hu, hrest⟩ := h
    rw [each_cons, events_bind_ok _ hu, ih hrest, List.flatMap_cons]

/-- The rounds of a loop that succeeds do so too. -/
theorem result_of_result_each {f : α → Trace ε Unit} {as : List α}
    (h : (each f as).result = .ok ()) {a : α} (ha : a ∈ as) : (f a).result = .ok () := by
  induction as with
  | nil => cases ha
  | cons b as ih =>
    rw [each_cons, bind_result_eq_ok] at h
    obtain ⟨u, hu, hrest⟩ := h
    rcases List.mem_cons.1 ha with rfl | ha
    · exact hu
    · exact ih hrest ha

/-- The events of a loop that succeeds are those of all of its rounds. -/
theorem mem_events_each {f : α → Trace ε Unit} {as : List α} {e : ε}
    (h : (each f as).result = .ok ()) : e ∈ (each f as).events ↔ ∃ a ∈ as, e ∈ (f a).events := by
  rw [events_each h, List.mem_flatMap]

end Trace

end Nsis
