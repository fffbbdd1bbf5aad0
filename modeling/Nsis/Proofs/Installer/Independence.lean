import Nsis.Proofs.Image.Stored
import Nsis.Proofs.Installer.Parsing

/-!
# Answers without a history

The answers of a session are computed from the unpacked header. What a session was asked before may
change the blocks that it keeps, also if the query failed, but what it keeps is what the header has.
So every answer is the one of a new session. The file is needed to open a session and for nothing
else: it is left where it is, and it does not matter what becomes of it.

## Main definitions

* `Nsis.Image.answer` — the answer to a query, from the unpacked header alone.
* `Nsis.Opened` — a session and the file that it was opened with.
* `Nsis.Opened.run` — what happens to them, query after query.

## Main results

* `Nsis.Session.Faithful.ask_fst` — a session answers from the unpacked header.
* `Nsis.Session.ask_fst_eq_of_raw_eq` — the unpacked header decides on the answers.
* `Nsis.Opened.sound_run` — what a run answers, and what it leaves.
* `Nsis.Opened.answers_independent_of_history` — every answer is the one of a new session.
-/

namespace Nsis

/-- The answer to a query, from the unpacked header alone. -/
def Image.answer (i : Image) : Query → Except Fault Answer
  | .text address => do return .text (← Strings.textAt (← i.block BlockId.strings) address)
  | .raw address => do return .bytes (Strings.rawAt (← i.block BlockId.strings) address)
  | .texts => do return .texts (← Strings.texts (← i.block BlockId.strings))
  | .raws => do return .raws (Strings.raws (← i.block BlockId.strings))
  | .block n => do return .bytes (← i.block n)
  | .size => return .number i.raw.length

/-- Answers are found in the settings and the bytes of the unpacked header, and nowhere else. -/
lemma Image.answer_congr {i j : Image} (hheader : i.header = j.header) (hraw : i.raw = j.raw)
    (q : Query) : i.answer q = j.answer q := by
  have hblock : ∀ n, i.block n = j.block n := by
    intro n
    rw [block, block, blockHeader, blockHeader, blockEnd, blockEnd, hheader, hraw]
  cases q with
  | size => rw [answer, answer, hraw]
  | _ => simp only [answer, hblock]

/-! ## One query -/

namespace Session

variable {s : Session}

/-- An answer from the block of strings. -/
lemma Faithful.withStrings_fst (h : s.Faithful) (g : Bytes → Except Fault Answer) :
    (s.withStrings g).1 = s.installer.image.block BlockId.strings >>= g := by
  rw [← h.block_eq, withStrings]
  split
  · rename_i hblock
    rw [hblock]
    rfl
  · rename_i hblock
    rw [hblock]
    rfl

/-- **A session answers from the unpacked header.** -/
theorem Faithful.ask_fst (h : s.Faithful) (q : Query) :
    (s.ask q).1 = s.installer.image.answer q := by
  cases q with
  | text address => exact h.withStrings_fst _
  | raw address => exact h.withStrings_fst _
  | texts => exact h.withStrings_fst _
  | raws => exact h.withStrings_fst _
  | block n =>
    rw [ask, h.block_eq]
    rfl
  | size => rfl

/-- Every block that is kept is the one of the header. -/
lemma Faithful.block_of_mem_cached (h : s.Faithful) {n : Int} (hn : n ∈ s.cached) :
    ∃ b, s.cache.lookup n = some b ∧ s.installer.image.block n = .ok b := by
  rw [cached, List.mem_mergeSort] at hn
  cases hlookup : s.cache.lookup n with
  | none =>
    obtain ⟨⟨m, b⟩, hmem, rfl⟩ := List.mem_map.1 hn
    simpa using List.lookup_eq_none_iff.1 hlookup _ hmem
  | some b => exact ⟨b, rfl, h n b hlookup⟩

/-- A new session keeps what the header has, and is about what was read. -/
lemma sound_of_ofFile {f : File} (h : ofFile f = .ok s) :
    s.Faithful ∧ Installer.read f = .ok s.installer := by
  obtain ⟨i, hi, rfl⟩ := Fault.map_eq_ok.1 h
  exact (Reached.opened hi).sound

/-- **Whatever files sessions were opened with**, they give the same answers if the unpacked headers
are the same. -/
theorem ask_fst_eq_of_raw_eq {f f' : File} {s' : Session} (h : ofFile f = .ok s)
    (h' : ofFile f' = .ok s') (hraw : s'.installer.image.raw = s.installer.image.raw) (q : Query) :
    (s'.ask q).1 = (s.ask q).1 := by
  obtain ⟨hfaithful, hread⟩ := sound_of_ofFile h
  obtain ⟨hfaithful', hread'⟩ := sound_of_ofFile h'
  have hheader : s'.installer.image.header = s.installer.image.header := by
    rw [(Installer.parsed_of_read hread').header, (Installer.parsed_of_read hread).header, hraw]
  rw [hfaithful'.ask_fst, hfaithful.ask_fst, Image.answer_congr hheader hraw]

end Session

/-! ## Runs -/

/-- What happens while a session is open: it is asked, or others move the file or write another one
in its place. -/
inductive Act where
  | ask (q : Query)
  | change (f : File)

namespace Act

/-- The query, if there is one. -/
def query? : Act → Option Query
  | ask q => some q
  | change _ => none

/-- The new state of the file, if there is one. -/
def file? : Act → Option File
  | ask _ => none
  | change f => some f

end Act

/-- A session, and the file that it was opened with as it is now. -/
structure Opened where
  session : Session
  file : File

namespace Opened

/-- What is answered when something happens, and what is left. A query is put to the session. -/
def step (x : Opened) : Act → Option (Except Fault Answer) × Opened
  | .ask q => (some (x.session.ask q).1, { x with session := (x.session.ask q).2 })
  | .change f => (none, { x with file := f })

/-- What is answered when one thing happens after the other, and what is left. -/
def run (x : Opened) : List Act → List (Except Fault Answer) × Opened
  | [] => ([], x)
  | a :: as => ((x.step a).1.toList ++ ((x.step a).2.run as).1, ((x.step a).2.run as).2)

/-- What one thing answers and leaves: the session keeps what the header has, and the file is
changed by others only. -/
lemma sound_step {x : Opened} (h : x.session.Faithful) (a : Act) :
    (x.step a).1 = a.query?.map x.session.installer.image.answer ∧
      (x.step a).2.file = a.file?.getD x.file ∧
      (x.step a).2.session.installer = x.session.installer ∧ (x.step a).2.session.Faithful := by
  cases a with
  | ask q =>
    obtain ⟨hfaithful, hinstaller⟩ := h.ask_snd q
    exact ⟨congrArg some (h.ask_fst q), rfl, hinstaller, hfaithful⟩
  | change f => exact ⟨rfl, rfl, rfl, h⟩

/-- **What a run answers and leaves.** -/
theorem sound_run {x : Opened} (h : x.session.Faithful) (as : List Act) :
    (x.run as).1 = (as.filterMap Act.query?).map x.session.installer.image.answer ∧
      (x.run as).2.file = (as.filterMap Act.file?).getLastD x.file ∧
      (x.run as).2.session.installer = x.session.installer ∧ (x.run as).2.session.Faithful := by
  induction as generalizing x with
  | nil => exact ⟨rfl, rfl, rfl, h⟩
  | cons a as ih =>
    obtain ⟨hanswer, hfile, hinstaller, hfaithful⟩ := sound_step h a
    obtain ⟨ihanswers, ihfile, ihinstaller, ihfaithful⟩ := ih hfaithful
    refine ⟨?_, ?_, ihinstaller.trans hinstaller, ihfaithful⟩
    · rw [run, ihanswers, hanswer, hinstaller]
      cases a with
      | ask q => rfl
      | change f => rfl
    · rw [run, ihfile, hfile]
      cases a with
      | ask q => rfl
      | change f => exact (List.getLastD_cons ..).symm

/-- **Answers do not depend on what happened before.** After a session was opened, it is asked in
any way, and others do with the file what they like. Each answer or fault is the one of the new
session, and of every session whose file has the same unpacked header. The file is as others left
it. Every block that is kept is the one that is cut out of the header, at all times. -/
theorem answers_independent_of_history {f : File} {s : Session} (h : Session.ofFile f = .ok s)
    (file : File) (as : List Act) :
    (run ⟨s, file⟩ as).1 = (as.filterMap Act.query?).map (fun q => (s.ask q).1) ∧
      (∀ f' s', Session.ofFile f' = .ok s' → s'.installer.image.raw = s.installer.image.raw →
        ∀ q, (s'.ask q).1 = (s.ask q).1) ∧
      (run ⟨s, file⟩ as).2.file = (as.filterMap Act.file?).getLastD file ∧
      (run ⟨s, file⟩ as).2.session.installer = s.installer ∧
      ∀ n ∈ (run ⟨s, file⟩ as).2.session.cached, ∃ b,
        (run ⟨s, file⟩ as).2.session.cache.lookup n = some b ∧
          s.installer.image.block n = .ok b := by
  obtain ⟨hnew, -⟩ := Session.sound_of_ofFile h
  obtain ⟨hanswers, hfile, hinstaller, hfaithful⟩ := sound_run (x := ⟨s, file⟩) hnew as
  refine ⟨?_, fun f' s' h' hraw q => Session.ask_fst_eq_of_raw_eq h h' hraw q, hfile,
    hinstaller, ?_⟩
  · rw [hanswers]
    simp only [hnew.ask_fst]
  · intro n hn
    obtain ⟨b, hlookup, hblock⟩ := hfaithful.block_of_mem_cached hn
    rw [hinstaller] at hblock
    exact ⟨b, hlookup, hblock⟩

/-- Ask for a block that does not exist, for the strings by a number that counts from the last
block, for a string that ends too early, and, after the file was emptied, for the strings by their
own number and for the size. -/
def mixedActs : List Act :=
  [.ask (.block 8), .ask (.block (-5)), .ask (.text 12), .change ⟨[], 7⟩, .ask (.block 3),
    .ask .size]

/-- Two of the answers are faults, and the others are found all the same. -/
theorem answers_of_mixedActs :
    ∃ s, Session.ofFile ⟨(withTables [] (by decide)).content, 0⟩ = .ok s ∧
      (run ⟨s, ⟨(withTables [] (by decide)).content, 0⟩⟩ mixedActs).1 =
        [.error .itemRange, .ok (.bytes [0, 0x48, 0x24, 0, 3, 0x95, 0x80, 0x2e, 0, 0, 1, 5, 1]),
          .error .byteRange, .ok (.bytes [0, 0x48, 0x24, 0, 3, 0x95, 0x80, 0x2e, 0, 0, 1, 5, 1]),
          .ok (.number 313)] ∧
      (run ⟨s, ⟨(withTables [] (by decide)).content, 0⟩⟩ mixedActs).2.file = ⟨[], 7⟩ := by
  have hview : (Session.ofFile ⟨(withTables [] (by decide)).content, 0⟩).toOption.map (fun s =>
      (mixedActs.filterMap Act.query?).map fun q => (s.ask q).1) =
        some [.error .itemRange,
          .ok (.bytes [0, 0x48, 0x24, 0, 3, 0x95, 0x80, 0x2e, 0, 0, 1, 5, 1]), .error .byteRange,
          .ok (.bytes [0, 0x48, 0x24, 0, 3, 0x95, 0x80, 0x2e, 0, 0, 1, 5, 1]),
          .ok (.number 313)] := by
    rw [Session.ofFile, withTables, Frame.read_installer (by decide +kernel)]
    decide +kernel
  obtain ⟨s, hs, hview⟩ := Fault.exists_of_toOption_map hview
  obtain ⟨hanswers, -, hfile, -⟩ :=
    answers_independent_of_history hs ⟨(withTables [] (by decide)).content, 0⟩ mixedActs
  exact ⟨s, hs, hanswers.trans hview, hfile⟩

end Opened

end Nsis
