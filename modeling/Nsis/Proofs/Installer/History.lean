import Mathlib.Data.List.Basic
import Nsis.Installer.Session

/-!
# Sessions and their history

A session keeps the blocks that it was asked for. What it keeps of a block is what the header has of
it, however the session came about, so that an answer does not depend on what was asked before.

## Main definitions

* `Nsis.Session.Reached` — the sessions with the installer in a file.
* `Nsis.Session.Faithful` — sessions whose blocks are those of the header.

## Main results

* `Nsis.Session.Reached.sound` — every session is faithful.
* `Nsis.Session.Reached.block_eq` — a session answers with the blocks of the header.
-/

namespace Nsis.Session

/-- The sessions with the installer in a file: a session is opened, and then it is asked, or a
handle is attached or closed, in any order. -/
inductive Reached (f : File) : Session → Prop
  | opened {i : Installer} (h : Installer.read f = .ok i) : Reached f (ofInstaller i)
  | asked {s : Session} (q : Query) (h : Reached f s) : Reached f (s.ask q).2
  | attached {s : Session} (h : Reached f s) : Reached f s.attach
  | closed {s : Session} (h : Reached f s) : Reached f s.close

/-- The blocks that a session keeps are those of the header. -/
def Faithful (s : Session) : Prop :=
  ∀ n b, s.cache.lookup n = some b → s.installer.image.block n = .ok b

/-! ## One block -/

/-- A faithful session answers with the block of the header. -/
lemma Faithful.block_eq {s : Session} (h : s.Faithful) (n : Int) :
    (s.block n).1 = s.installer.image.block n := by
  rw [block]
  split
  · rename_i b hlookup
    exact (h n b hlookup).symm
  · split
    · rename_i b hblock
      exact hblock.symm
    · rename_i e hblock
      exact hblock.symm

/-- Asking for a block leaves the installer as it is. -/
lemma installer_block (s : Session) (n : Int) : (s.block n).2.installer = s.installer := by
  rw [block]
  split
  · rfl
  · split <;> rfl

/-- A session that is faithful stays so when it is asked for a block. -/
lemma Faithful.block {s : Session} (h : s.Faithful) (n : Int) : (s.block n).2.Faithful := by
  rw [Session.block]
  split
  · exact h
  · split
    · rename_i b hblock
      -- the block that is kept from now on is the one just found
      intro m c hlookup
      rw [List.lookup_cons] at hlookup
      split at hlookup
      · rename_i hm
        cases hlookup
        rw [beq_iff_eq.1 hm]
        exact hblock
      · exact h m c hlookup
    · exact h

/-! ## Histories -/

/-- Whatever is asked changes a session at most by the block of strings or the block that was asked
for. -/
lemma ask_snd (s : Session) (q : Query) : (s.ask q).2 = s ∨ ∃ n, (s.ask q).2 = (s.block n).2 := by
  have hstrings : ∀ g, (s.withStrings g).2 = (s.block BlockId.strings).2 := by
    intro g
    rw [withStrings]
    split <;> rename_i hblock <;> rw [hblock]
  cases q with
  | text address => exact .inr ⟨_, hstrings _⟩
  | raw address => exact .inr ⟨_, hstrings _⟩
  | texts => exact .inr ⟨_, hstrings _⟩
  | raws => exact .inr ⟨_, hstrings _⟩
  | block n => exact .inr ⟨n, rfl⟩
  | size => exact .inl rfl

/-- A query leaves a session that keeps what the header has, whether it fails or not. -/
lemma Faithful.ask_snd {s : Session} (h : s.Faithful) (q : Query) :
    (s.ask q).2.Faithful ∧ (s.ask q).2.installer = s.installer := by
  rcases s.ask_snd q with hsame | ⟨n, hblock⟩
  · rw [hsame]
    exact ⟨h, rfl⟩
  · rw [hblock]
    exact ⟨h.block n, s.installer_block n⟩

/-- A new session has seen four blocks. -/
lemma ofInstaller_eq (i : Installer) :
    ofInstaller i =
      (((((({ installer := i } : Session).block BlockId.strings).2.block BlockId.pages).2.block
      BlockId.sections).2.block BlockId.entries).2) := rfl

/-- **Every session is faithful**, and is about the installer in its file. -/
theorem Reached.sound {f : File} {s : Session} (h : Reached f s) :
    s.Faithful ∧ Installer.read f = .ok s.installer := by
  induction h with
  | @opened i h =>
    have hnew : ({ installer := i } : Session).Faithful := by
      intro n b hlookup
      cases hlookup
    refine ⟨(((hnew.block _).block _).block _).block _, ?_⟩
    simp only [ofInstaller_eq, installer_block]
    exact h
  | @asked s q h ih =>
    obtain ⟨hfaithful, hinstaller⟩ := ih.1.ask_snd q
    rw [hinstaller]
    exact ⟨hfaithful, ih.2⟩
  | attached h ih => exact ih
  | closed h ih => exact ih

/-- **A session answers with the blocks of the header.** -/
theorem Reached.block_eq {f : File} {s : Session} (h : Reached f s) (n : Int) :
    (s.block n).1 = s.installer.image.block n :=
  h.sound.1.block_eq n

/-- An installer that can be read has a session, which is about what was read. -/
lemma exists_reached {f : File} {p : Installer → Prop} [DecidablePred p]
    (h : (Installer.read f).toOption.any (fun i => decide (p i)) = true) :
    ∃ s, Reached f s ∧ p s.installer := by
  cases hi : Installer.read f with
  | error e => simp [hi, Except.toOption] at h
  | ok i =>
    have hs := Reached.opened hi
    have hinstaller : i = (ofInstaller i).installer := Except.ok.inj (hi.symm.trans hs.sound.2)
    refine ⟨_, hs, ?_⟩
    rw [← hinstaller]
    simpa [hi, Except.toOption] using h

end Nsis.Session
