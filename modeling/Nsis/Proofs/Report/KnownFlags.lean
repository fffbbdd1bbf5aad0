import Mathlib.Data.List.Forall2
import Mathlib.Tactic.SplitIfs
import Nsis.Proofs.Formula.Names
import Nsis.Report.Vocabulary

/-!
# The flags that formulas know

Before the first formula is looked at, the names of the format are kept in the memory, together with
the modules and the common names. Three records are filled one after the other, and what stands at
one address is not touched when the next is filled. At the end every flag of the format stands under
its own name, with its own mask.

## Main definitions

* `Nsis.Report.KeepsNumbers` — values of names, where numbers are as they are.
* `Nsis.Report.KnowsFlags` — a memory in which every flag stands for its mask.

## Main results

* `Nsis.Report.run_keepNames` — names are kept at an address, and nothing else is changed.
* `Nsis.Report.knowsFlags_initialMemory` — formulas know all flags from the beginning.
* `Nsis.Report.KnowsFlags.gives_evaluate` — the name of a flag is a formula for its mask.
-/

namespace Nsis

/-! ## Names that are kept -/

namespace Report

open Evaluation

/-- What a name stands for is kept without a fault. -/
lemma extending_kept (d : Datum) : (kept d).Extending := by
  refine (Extending.store Memory.room d).bind fun d => ?_
  split
  · exact (Extending.allocate _).bind fun a => .pure _
  · exact .allocated _
  · exact .pure _

/-- A number is kept as it is. -/
lemma eq_of_kept {p : String × Datum} {d : Datum} {m m' : Memory}
    (h : (kept p.2).run.run m = (.ok d, m')) : ∀ n, p.2 = .number n → d = .number n := by
  intro n hn
  rw [hn] at h
  exact (Except.ok.inj (Prod.mk.inj h).1).symm

/-- Values of names, where numbers are as they are. -/
def KeepsNumbers (names : Names) (values : List Datum) : Prop :=
  List.Forall₂ (fun p d => ∀ n, p.2 = .number n → d = .number n) names values

/-- A name that stands for a number does so in a record of names. -/
lemma KeepsNumbers.entry_eq {names : Names} {values : List Datum}
    (h : KeepsNumbers names values) {s : String} {n : Int}
    (hs : names.lookup s = some (.number n)) :
    namedEntry? s (names.map fun p => .text p.1) values = some (.number n) := by
  induction h with
  | nil => cases hs
  | @cons p d names values hd h ih =>
    rw [List.map_cons, namedEntry?]
    rw [List.lookup_cons] at hs
    split_ifs with heq
    · rw [beq_iff_eq.2 heq] at hs
      rw [hd n (Option.some.inj hs)]
    · rw [beq_eq_false_iff_ne.2 heq] at hs
      exact ih hs

/-- A record of names has no entry for another name. -/
lemma entry_eq_none {names : Names} {s : String} (hs : s ∉ names.map (·.1))
    (values : List Datum) : namedEntry? s (names.map fun p => .text p.1) values = none := by
  induction names generalizing values with
  | nil => rfl
  | cons p names ih =>
    rw [List.map_cons, List.mem_cons, not_or] at hs
    cases values with
    | nil => rfl
    | cons d values =>
      rw [List.map_cons, namedEntry?, if_neg hs.1]
      exact ih hs.2 values

/-- **Names are kept** at an address: as a record in which numbers are as they are. All else that
was there is kept as it was. -/
lemma run_keepNames {m : Memory} (address : Nat) (hsize : address < m.objects.size)
    (names : Names) :
    ∃ values m', (keepNames address names).run.run m = (.ok (), m') ∧
      KeepsNumbers names values ∧
      m'.content address = .record (names.map fun p => .text p.1) values ∧
      m.objects.size ≤ m'.objects.size ∧
      ∀ a < m.objects.size, a ≠ address → m'.content a = m.content a := by
  obtain ⟨values, m', hrun, hm⟩ :=
    Extending.mapM (fun p : String × Datum => extending_kept p.2) names m
  have hvalues := forall₂_of_mapM (fun p _ _ _ h => eq_of_kept (p := p) h) hrun
  have hlt : ∀ a < m.objects.size, a < m'.objects.size := fun a ha => ha.trans_le hm.size_le
  let kept := Datum.record (names.map fun p => .text p.1) values
  refine ⟨values, { m' with
    objects := m'.objects.setIfInBounds address (.data kept)
    changes := m'.changes + 1 }, ?_, hvalues, ?_, ?_, ?_⟩
  · exact run_bind_of_ok hrun
  · simp [Memory.content, Memory.object, Array.getD, hlt address hsize, kept]
  · simpa using hm.size_le
  · intro a ha hne
    rw [← hm.content_eq ha]
    simp [Memory.content, Memory.object, Array.getD, hlt a ha,
      Array.getElem_setIfInBounds_ne _ hne.symm]

/-! ## The flags of the format -/

/-- The value of a name that may be that of a module: a module that is kept already is that one. -/
def orModule (values : List Datum) (p : String × Datum) : String × Datum :=
  (p.1, ( namedEntry? p.1 (modules.map fun p => .text p.1) values).getD p.2)

/-- The names at the first address, if the modules have given values. -/
def worldNames (values : List Datum) : Names :=
  placeNames ++ [(Scope.commonNames, .shared 2)] ++ formatNames.map (orModule values)

/-- The memory that a computation leaves is that of its run. -/
lemma memoryAfter_eq {x : Evaluation Unit} {r : Except Fault Unit} {m : Memory}
    (h : x.run.run {} = (r, m)) : memoryAfter x = m := by
  rw [memoryAfter, h]

/-- **What formulas begin with** has the names of the format at the first address. -/
theorem exists_world :
    ∃ imported values, initialMemory.content 0 =
        .record ((worldNames imported).map fun p => .text p.1) values ∧
      KeepsNumbers (worldNames imported) values := by
  -- three addresses are taken, and the records are kept at the second, third and first one
  let start : Memory := { objects := #[.data .absent, .data .absent, .data .absent] }
  obtain ⟨imported, m₁, hrun₁, -, himported, hsize₁, -⟩ :=
    run_keepNames (m := start) 1 (by decide) modules
  have hsize : 3 ≤ m₁.objects.size := hsize₁
  obtain ⟨_, m₂, hrun₂, -, -, hsize₂, hsame₂⟩ :=
    run_keepNames (m := m₁) 2 (by omega) commonNames
  rw [← hsame₂ 1 (by omega) (by decide)] at himported
  have hmodule (p : String × Datum) : Gives (do
      return (p.1, (← Evaluation.entryAt? 1 p.1).getD p.2)) m₂ (.ok (orModule imported p)) :=
    (Gives.entryAt? himported p.1).bind (.pure _)
  have hknown := Gives.mapM hmodule formatNames
  obtain ⟨values, m₃, hrun₃, hvalues, hworld, -, -⟩ :=
    run_keepNames (m := m₂) 0 (by omega) (worldNames imported)
  have hrun : remember.run.run {} = (.ok (), m₃) := by
    have hfirst : (allocate (.data .absent)).run.run {} =
        (.ok 0, { objects := #[.data .absent] }) := rfl
    have hsecond : (allocate (.data .absent)).run.run { objects := #[.data .absent] } =
        (.ok 1, { objects := #[.data .absent, .data .absent] }) := rfl
    have hthird : (allocate (.data .absent)).run.run
        { objects := #[.data .absent, .data .absent] } = (.ok 2, start) := rfl
    unfold remember
    rw [run_bind_of_ok hfirst, run_bind_of_ok hsecond, run_bind_of_ok hthird, run_bind_of_ok hrun₁,
      run_bind_of_ok hrun₂, run_bind_of_ok hknown]
    exact hrun₃
  rw [initialMemory, memoryAfter_eq hrun]
  exact ⟨imported, values, hworld, hvalues⟩

/-- Whether a flag stands for its mask under names that are given, has a plain name, and is no
module. -/
def isGiven (names : Names) (f : Flag) : Bool :=
  Formula.isPlainName f.name && !(modules.map (·.1)).contains f.name &&
    match names.lookup f.name with
    | some (.number n) => n = f.mask
    | _ => false

/-- What a flag stands for under names that are given. -/
lemma lookup_of_isGiven {names : Names} {f : Flag} (h : isGiven names f = true) :
    names.lookup f.name = some (.number f.mask) := by
  simp only [isGiven, Bool.and_eq_true] at h
  obtain ⟨-, h⟩ := h
  split at h
  · next n hn => rw [hn, of_decide_eq_true h]
  · cases h

/-- What is no module stands for what is given. -/
lemma lookup_map_orModule {s : String} (hs : s ∉ modules.map (·.1)) (values : List Datum)
    (names : Names) : (names.map (orModule values)).lookup s = names.lookup s := by
  induction names with
  | nil => rfl
  | cons p names ih =>
    rw [List.map_cons, List.lookup_cons, List.lookup_cons, ih]
    by_cases heq : s = p.1
    · rw [orModule, ← heq, entry_eq_none hs values]
      rfl
    · have hne : (s == p.1) = false := beq_eq_false_iff_ne.2 heq
      rw [orModule, hne]

/-- The names of the format, with where they are kept and with the common names. -/
def givenNames : Names :=
  placeNames ++ [(Scope.commonNames, .shared 2)] ++ formatNames

/-- Every flag of the format is given. -/
lemma isGiven_of_mem : ∀ f ∈ Flag.all, isGiven givenNames f = true := by
  have hall : Flag.all.all (isGiven givenNames) = true := by decide +kernel
  exact List.all_eq_true.1 hall

/-- The name of a flag is plain. -/
lemma isPlainName_of_mem {f : Flag} (hf : f ∈ Flag.all) :
    Formula.isPlainName f.name = true := by
  have hgiven := isGiven_of_mem f hf
  simp only [isGiven, Bool.and_eq_true] at hgiven
  exact hgiven.1.1

/-- Every flag of the format stands for its mask, whatever the modules are. -/
lemma lookup_worldNames {f : Flag} (hf : f ∈ Flag.all) (values : List Datum) :
    (worldNames values).lookup f.name = some (.number f.mask) := by
  have hgiven := isGiven_of_mem f hf
  have hmodule : f.name ∉ modules.map (·.1) := by
    simp only [isGiven, Bool.and_eq_true] at hgiven
    simpa using hgiven.1.2
  rw [worldNames, List.lookup_append, lookup_map_orModule hmodule, ← List.lookup_append]
  exact lookup_of_isGiven hgiven

/-- A memory in which every flag of the format stands for its mask. -/
def KnowsFlags (m : Memory) : Prop :=
  ∃ keys values, m.content 0 = .record keys values ∧
    ∀ f ∈ Flag.all, namedEntry? f.name keys values = some (.number f.mask)

/-- **Formulas know all flags** from the beginning. -/
theorem knowsFlags_initialMemory : KnowsFlags initialMemory := by
  obtain ⟨imported, values, hworld, hvalues⟩ := exists_world
  exact ⟨_, values, hworld, fun f hf => hvalues.entry_eq (lookup_worldNames hf imported)⟩

namespace KnowsFlags

variable {m m' : Memory}

/-- What a memory knows does not depend on what was printed. -/
lemma of_objects_eq (h : KnowsFlags m) (hobjects : m'.objects = m.objects) : KnowsFlags m' := by
  obtain ⟨keys, values, hworld, hflags⟩ := h
  refine ⟨keys, values, ?_, hflags⟩
  rw [← hworld, Memory.content, Memory.content, Memory.object, Memory.object, hobjects]

/-- **The name of a flag is a formula for its mask.** -/
theorem gives_evaluate (h : KnowsFlags m) {f : Flag} (hf : f ∈ Flag.all) :
    (Formula.evaluate vocabulary f.name).Gives m (.ok (.number f.mask)) := by
  obtain ⟨keys, values, hworld, hflags⟩ := h
  exact Formula.gives_evaluate hworld (isPlainName_of_mem hf) (hflags f hf) vocabulary

end KnowsFlags

end Report

end Nsis
