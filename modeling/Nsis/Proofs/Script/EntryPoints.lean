import Nsis.Proofs.Image.Stored
import Nsis.Proofs.Installer.Parsing
import Nsis.Proofs.Script.Loading

/-!
# Entry points

While an installer is loaded, the code of its sections, of the handlers of its pages and of its
callbacks gets entry points. The word `0xffffffff` stands for no code. The code of a section is an
unsigned word and is compared with this number as it is. A handler is a signed word, which is never
this number, so that a handler without code gets an entry point as well, one entry before the code.

## Main definitions

* `Nsis.Script.entryPoints` — the addresses of the entry points that events make.
* `Nsis.Installer.sectionWords`, `Nsis.Installer.handlerWords` — the words that tell where code
  begins.
* `Nsis.Installer.codeAddress` — the address of an entry.

## Main results

* `Nsis.Script.entryPoints_load` — the entry points that loading makes.
* `Nsis.Script.entryPoints_loadFile_eq_iff` — when these are the ones of the code that exists.
-/

namespace Nsis

/-! ## Words that tell where code begins -/

namespace Installer

/-- The address of the entry with a given number. -/
def codeAddress (i : Installer) (n : Int) : Int :=
  i.image.blockOffset BlockId.entries + 28 * n

/-- The words that tell where the code of the sections begins. -/
def sectionWords (i : Installer) : List UInt32 :=
  (List.range (i.image.blockNum BlockId.sections)).map fun k =>
    (i.image.record BlockId.sections (Section.layout i.unicode).size k).word 12

/-- The words that tell where the three handlers of each page and the ten callbacks begin. -/
def handlerWords (i : Installer) : List UInt32 :=
  (List.range (i.image.blockNum BlockId.pages)).flatMap
    (fun k => (i.image.record BlockId.pages 64 k).words 8 3) ++
    i.image.raw.words 108 10

variable {i : Installer}

/-- The code of the sections begins where their words tell. -/
lemma Parsed.map_code (h : i.Parsed) : i.sections.map (·.code) = i.sectionWords := by
  rw [h.sections, List.map_map]
  rfl

/-- The ten callbacks stand one after the other among the settings. -/
lemma Parsed.map_callbacks (h : i.Parsed) :
    i.image.header.callbacks.map (·.2) = (i.image.raw.words 108 10).map (·.toInt32) := by
  have hwords : Bytes.words (i.image.raw.take Header.size) 108 10 = i.image.raw.words 108 10 := by
    apply List.map_congr_left
    intro k hk
    rw [List.mem_range] at hk
    exact Bytes.word_take _ (by rw [Header.size]; omega)
  rw [h.header, ← hwords]
  rfl

/-- The handlers of the pages and the callbacks are their words, taken as signed ones. -/
lemma Parsed.map_handlers (h : i.Parsed) :
    i.pages.flatMap (fun p => [p.preFunc, p.showFunc, p.leaveFunc]) ++
        i.image.header.callbacks.map (·.2) =
      i.handlerWords.map (·.toInt32) := by
  rw [handlerWords, List.map_append, h.map_callbacks, h.pages, List.flatMap_map, List.map_flatMap]
  rfl

end Installer

namespace Script

/-! ## Entry points of events -/

/-- The address of the entry point that an event makes. -/
def LoadEvent.entryPoint? : LoadEvent → Option Int
  | .entryPoint address _ => some address
  | _ => none

/-- The addresses of the entry points that events make, in order. -/
def entryPoints (events : List LoadEvent) : List Int :=
  events.filterMap LoadEvent.entryPoint?

/-- The entry points of events are those of the first ones, and then those of the others. -/
lemma entryPoints_append (events more : List LoadEvent) :
    entryPoints (events ++ more) = entryPoints events ++ entryPoints more :=
  List.filterMap_append

/-- Events that make no entry points have none. -/
lemma entryPoints_eq_nil {events : List LoadEvent} (h : ∀ e ∈ events, e.entryPoint? = none) :
    entryPoints events = [] :=
  List.filterMap_eq_nil_iff.2 h

/-- The entry points that a loop makes are those of its rounds. -/
lemma entryPoints_each {α : Type} {f : α → Loading} {as : List α}
    (h : (Trace.each f as).result = .ok ()) :
    entryPoints (Trace.each f as).events = as.flatMap fun a => entryPoints (f a).events := by
  rw [Trace.events_each h, entryPoints, List.filterMap_flatMap]
  rfl

section Events

variable {i : Installer}

/-- Loading the blocks makes no entry points. -/
lemma entryPoints_loadBlocks (i : Installer) : entryPoints (loadBlocks i).events = [] := by
  apply entryPoints_eq_nil
  intro e he
  obtain ⟨⟨name, n, kind⟩, -, he⟩ := Trace.exists_of_mem_events_each he
  simp only [loadBlock] at he
  split_ifs at he
  · cases he
  · simp only [Trace.mem_events_bind, Trace.mem_events_emit, Trace.events_ofExcept] at he
    rcases he with he | ⟨content, -, rfl | ⟨-, -, rfl⟩⟩
    · cases he
    · rfl
    · rfl

/-- Loading the variables makes no entry points. -/
lemma entryPoints_loadVars (i : Installer) : entryPoints (loadVars i).events = [] := by
  apply entryPoints_eq_nil
  intro e he
  simp only [loadVars, Trace.mem_events_bind, Trace.mem_events_emit] at he
  rcases he with rfl | ⟨-, -, he⟩
  · rfl
  · obtain ⟨a, -, he⟩ := Trace.exists_of_mem_events_each he
    obtain rfl := Trace.mem_events_emit.1 he
    rfl

/-- An entry gets an entry point, unless its number is the one that stands for no code. -/
lemma entryPoints_loadEntryPoint (i : Installer) (code : Int) (name : String) :
    entryPoints (loadEntryPoint i code name).events =
      if code = noCode then [] else [i.codeAddress code] := by
  unfold loadEntryPoint
  by_cases hcode : code = noCode
  · rw [if_pos hcode, if_neg (not_not.2 hcode)]
    rfl
  · rw [if_neg hcode, if_pos hcode, Installer.codeAddress, Int.mul_comm]
    rfl

/-- Making an entry point never fails. -/
lemma result_loadEntryPoint (i : Installer) (code : Int) (name : String) :
    (loadEntryPoint i code name).result = .ok () := by
  unfold loadEntryPoint
  split_ifs <;> rfl

/-- **A signed word always gets an entry point**: it is never the number that stands for no code. -/
lemma entryPoints_loadEntryPoint_toInt (i : Installer) (code : Int32) (name : String) :
    entryPoints (loadEntryPoint i code.toInt name).events = [i.codeAddress code.toInt] := by
  have hlt := code.toInt_lt
  rw [entryPoints_loadEntryPoint, if_neg]
  rw [noCode]
  omega

/-- A section gets an entry point, unless its word is the one that stands for no code. -/
lemma entryPoints_loadSection {n : Nat} {s : Section} (h : (loadSection i n s).result = .ok ()) :
    entryPoints (loadSection i n s).events =
      if s.code ≠ 0xffffffff then [i.codeAddress s.code.toNat] else [] := by
  have hcode : (s.code.toNat : Int) = noCode ↔ s.code = 0xffffffff := by
    rw [← UInt32.toNat_inj, noCode]
    exact Int.ofNat_inj
  unfold loadSection at h ⊢
  by_cases hnone : (s.code.toNat : Int) = noCode
  · rw [if_pos hnone, if_neg (not_not.2 (hcode.1 hnone))]
    rfl
  · rw [if_neg hnone] at h ⊢
    rw [if_pos fun hmark => hnone (hcode.2 hmark)]
    obtain ⟨text, htext, -⟩ := Trace.bind_result_eq_ok.1 h
    rw [Trace.events_bind_ok _ htext, Trace.events_ofExcept, List.nil_append,
      entryPoints_loadEntryPoint, if_neg hnone]

/-- Loading a page makes an entry point for each of its handlers. -/
lemma entryPoints_loadPage (i : Installer) (n : Nat) (p : Page) :
    entryPoints (loadPage i n p).events =
      [p.preFunc, p.showFunc, p.leaveFunc].map fun code => i.codeAddress code.toInt := by
  rw [loadPage, entryPoints_each (Trace.result_each fun _ _ => result_loadEntryPoint _ _ _)]
  simp only [List.flatMap_cons, List.flatMap_nil, entryPoints_loadEntryPoint_toInt]
  rfl

/-- A loop over a list with the places of its items, in which the places do not matter. -/
lemma flatMap_mapIdx {α β : Type} (as : List α) {f : Nat × α → List β} {g : α → List β}
    (h : ∀ k a, (k, a) ∈ as.mapIdx (fun k a => (k, a)) → f (k, a) = g a) :
    (as.mapIdx fun k a => (k, a)).flatMap f = as.flatMap g := by
  have hsnd : (as.mapIdx fun k a => (k, a)).map Prod.snd = as := by
    apply List.ext_getElem?
    intro k
    simp
  calc (as.mapIdx fun k a => (k, a)).flatMap f
      = (as.mapIdx fun k a => (k, a)).flatMap (fun x => g x.2) :=
        List.flatMap_congr fun x hx => h x.1 x.2 hx
    _ = ((as.mapIdx fun k a => (k, a)).map Prod.snd).flatMap g := (List.flatMap_map _ _ _).symm
    _ = as.flatMap g := by rw [hsnd]

/-- A loop that yields one item for those of a list that satisfy a condition. -/
lemma flatMap_ite_singleton {α β : Type} (as : List α) (p : α → Prop) [DecidablePred p]
    (f : α → β) : as.flatMap (fun a => if p a then [f a] else []) = (as.filter p).map f := by
  induction as with
  | nil => rfl
  | cons a as ih =>
    rw [List.flatMap_cons, ih, List.filter_cons]
    by_cases hp : p a
    · simp [hp]
    · simp [hp]

/-- **The entry points that loading makes**: of the sections with code, of all handlers of pages,
and of all callbacks. -/
theorem entryPoints_load (h : (load i).result = .ok ()) :
    entryPoints (load i).events =
      ((i.sections.map (·.code)).filter (· ≠ 0xffffffff)).map (fun w => i.codeAddress w.toNat) ++
        (i.pages.flatMap (fun p => [p.preFunc, p.showFunc, p.leaveFunc]) ++
          i.image.header.callbacks.map (·.2)).map
          fun code => i.codeAddress code.toInt := by
  simp only [load, Trace.bind_result_eq_ok] at h
  obtain ⟨_, hmajor, _, hminor, _, hblocks, _, hvars, _, hsections, _, hpages, _, hcallbacks,
    -⟩ := h
  have hsection : ∀ n s, (n, s) ∈ i.sections.mapIdx (fun n s => (n, s)) →
      entryPoints (loadSection i n s).events =
      if s.code ≠ 0xffffffff then [i.codeAddress s.code.toNat] else [] := by
    intro n s hs
    exact entryPoints_loadSection (Trace.result_of_result_each hsections hs)
  rw [load, Trace.events_bind_ok _ hmajor, Trace.events_bind_ok _ hminor,
    Trace.events_bind_ok _ hblocks, Trace.events_bind_ok _ hvars, Trace.events_bind_ok _ hsections,
    Trace.events_bind_ok _ hpages,
    Trace.events_bind_ok _ hcallbacks]
  simp only [entryPoints_append, entryPoints_loadBlocks, entryPoints_loadVars,
    entryPoints_each hsections, entryPoints_each hpages, entryPoints_each hcallbacks]
  rw [flatMap_mapIdx i.sections hsection,
    flatMap_mapIdx i.pages fun n p _ => entryPoints_loadPage i n p]
  simp only [entryPoints_loadEntryPoint_toInt]
  rw [flatMap_ite_singleton i.sections (·.code ≠ 0xffffffff), ← List.map_eq_flatMap,
    ← List.map_flatMap, List.filter_map, List.map_map, List.map_append, List.map_map]
  have hlast : entryPoints (Trace.emit LoadEvent.chooseProcessor).events = [] := rfl
  rw [hlast, List.append_nil]
  rfl

end Events

/-! ## Code that exists -/

/-- The number of a word that is taken as a signed one. -/
lemma toInt_toInt32 (w : UInt32) :
    w.toInt32.toInt = if w < 0x80000000 then (w.toNat : Int) else w.toNat - 0x100000000 := by
  have hlt : w < 0x80000000 ↔ 2 * w.toNat < 2 ^ 32 := by
    rw [UInt32.lt_iff_toNat_lt]
    show w.toNat < 0x80000000 ↔ _
    omega
  show w.toBitVec.toInt = _
  rw [BitVec.toInt_eq_toNat_cond]
  simp only [hlt]
  rfl

/-- A word that is taken as a signed one tells the same entry exactly if its highest bit is not
set. -/
lemma codeAddress_toInt32_eq_iff (i : Installer) (w : UInt32) :
    i.codeAddress w.toInt32.toInt = i.codeAddress w.toNat ↔ w < 0x80000000 := by
  rw [Installer.codeAddress, Installer.codeAddress, toInt_toInt32]
  by_cases hw : w < 0x80000000
  · simp [hw]
  · simp only [hw, if_false, iff_false]
    omega

/-- Otherwise the entry that it tells stands before the code. -/
lemma codeAddress_toInt32_lt_iff (i : Installer) (w : UInt32) :
    i.codeAddress w.toInt32.toInt < i.image.blockOffset BlockId.entries ↔ 0x80000000 ≤ w := by
  have hlt := w.toNat_lt
  rw [Installer.codeAddress, toInt_toInt32, ← UInt32.not_lt]
  by_cases hw : w < 0x80000000
  · simp only [hw, if_true, not_true_eq_false, iff_false]
    omega
  · simp only [hw, if_false, not_false_eq_true, iff_true]
    omega

/-- Words that are taken as signed ones tell the code that exists exactly if none of them has its
highest bit set.

**Proof sketch.** If the addresses are the same, there are as many of them, so that none of the
words stands for no code. Then they are compared one by one. -/
lemma map_codeAddress_eq_iff (i : Installer) (ws : List UInt32) :
    ws.map (fun w => i.codeAddress w.toInt32.toInt) =
        (ws.filter (· ≠ 0xffffffff)).map (fun w => i.codeAddress w.toNat) ↔
      ∀ w ∈ ws, w < 0x80000000 := by
  have hfilter : ws.filter (· ≠ 0xffffffff) = ws →
      (ws.map (fun w => i.codeAddress w.toInt32.toInt) =
        (ws.filter (· ≠ 0xffffffff)).map (fun w => i.codeAddress w.toNat) ↔
          ∀ w ∈ ws, w < 0x80000000) := by
    intro hall
    rw [hall, List.map_inj_left]
    simp only [codeAddress_toInt32_eq_iff]
  constructor
  · intro h
    have hlength := congrArg List.length h
    rw [List.length_map, List.length_map] at hlength
    exact (hfilter (List.filter_sublist.eq_of_length hlength.symm)).1 h
  · intro h
    refine (hfilter ?_).2 h
    rw [List.filter_eq_self]
    intro w hw
    have hlow := h w hw
    rw [decide_eq_true_eq]
    rintro rfl
    exact absurd hlow (by decide)

/-- **When entry points are those of the code that exists.** Loading makes an entry point for each
section whose word is not the one that stands for no code, at the entry that the word tells. It
makes one for every handler of a page and every callback, at the entry that the word tells if it is
taken as a signed one. These are the entry points of the code that exists exactly if no word of a
handler has its highest bit set. Otherwise some of them stand before the code. -/
theorem entryPoints_loadFile_eq_iff {f : File} {i : Installer} (hread : Installer.read f = .ok i)
    (hload : (loadFile f).result = .ok ()) :
    entryPoints (loadFile f).events =
        (i.sectionWords.filter (· ≠ 0xffffffff)).map (fun w => i.codeAddress w.toNat) ++
          i.handlerWords.map (fun w => i.codeAddress w.toInt32.toInt) ∧
      (entryPoints (loadFile f).events =
          ((i.sectionWords ++ i.handlerWords).filter (· ≠ 0xffffffff)).map
            (fun w => i.codeAddress w.toNat) ↔
        ∀ w ∈ i.handlerWords, w < 0x80000000) ∧
      ((∃ address ∈ entryPoints (loadFile f).events,
        address < i.image.blockOffset BlockId.entries) ↔
        ∃ w ∈ i.handlerWords, 0x80000000 ≤ w) := by
  have hparsed := Installer.parsed_of_read hread
  have hpoints : entryPoints (loadFile f).events =
      (i.sectionWords.filter (· ≠ 0xffffffff)).map (fun w => i.codeAddress w.toNat) ++
        i.handlerWords.map (fun w => i.codeAddress w.toInt32.toInt) := by
    rw [loadFile_of_read hread] at hload ⊢
    rw [entryPoints_load hload, hparsed.map_code, hparsed.map_handlers, List.map_map]
    rfl
  refine ⟨hpoints, ?_, ?_⟩
  · rw [hpoints, List.filter_append, List.map_append, List.append_right_inj]
    exact map_codeAddress_eq_iff i i.handlerWords
  · simp only [← codeAddress_toInt32_lt_iff i]
    rw [hpoints]
    constructor
    · rintro ⟨address, haddress, hlt⟩
      rcases List.mem_append.1 haddress with hsection | hhandler
      · obtain ⟨w, -, rfl⟩ := List.mem_map.1 hsection
        rw [Installer.codeAddress] at hlt
        omega
      · obtain ⟨w, hw, rfl⟩ := List.mem_map.1 hhandler
        exact ⟨w, hw, hlt⟩
    · rintro ⟨w, hw, hlt⟩
      exact ⟨_, List.mem_append_right _ (List.mem_map_of_mem hw), hlt⟩

/-- The unpacked header of an installer with one page, one entry, strings, and a block that lies
over the last two. The page has one handler, and of the callbacks the first one exists. -/
def onePageHeader : Bytes :=
  ([0, 300, 1, 0, 0, 364, 1, 392, 0, 396, 0, 368, 0, 400, 0, 0, 0] ++ List.replicate 10 0 ++
    [0] ++ List.replicate 9 0xffffffff ++ List.replicate 38 0 ++
    [0, 0, 0xffffffff, 0, 0xffffffff] ++ List.replicate 11 0 ++
    [1, 5, 0xffffffff, 0, 0, 0, 0] : List UInt32).flatMap Bytes.ofWord ++
      [0, 0x41, 0x42, 0, 9, 4, 0, 0]

/-- An installer with this header. -/
def onePage : File :=
  ⟨(Frame.installer onePageHeader [] (by decide +kernel)).content, 0⟩

/-- This installer is read and loaded, and every handler gets an entry point. -/
lemma exists_read_onePage :
    ∃ i, Installer.read onePage = .ok i ∧ (loadFile onePage).result = .ok () ∧
      i.image.blockOffset BlockId.entries = 364 ∧ i.sectionWords = [] ∧
      i.handlerWords = [0xffffffff, 0, 0xffffffff, 0] ++ List.replicate 9 0xffffffff ∧
      entryPoints (loadFile onePage).events = [336, 364, 336, 364] ++ List.replicate 9 336 := by
  have hview : (Installer.read onePage).toOption.map
      (fun i => ((load i).result, i.image.blockOffset BlockId.entries,
      i.sectionWords, i.handlerWords, entryPoints (load i).events)) =
        some (.ok (), 364, [], [0xffffffff, 0, 0xffffffff, 0] ++ List.replicate 9 0xffffffff,
          [336, 364, 336, 364] ++ List.replicate 9 336) := by
    rw [onePage, Frame.read_installer (by decide +kernel)]
    decide +kernel
  obtain ⟨i, hread, hview⟩ := Fault.exists_of_toOption_map hview
  simp only [Prod.mk.injEq] at hview
  rw [loadFile_of_read hread]
  exact ⟨i, hread, hview⟩

/-- In this installer some handlers are missing, and these have their entry points before the
code. -/
theorem entryPoints_onePage_ne :
    ∃ i, Installer.read onePage = .ok i ∧ (loadFile onePage).result = .ok () ∧
      entryPoints (loadFile onePage).events ≠
        ((i.sectionWords ++ i.handlerWords).filter (· ≠ 0xffffffff)).map
          (fun w => i.codeAddress w.toNat) ∧
      ∃ address ∈ entryPoints (loadFile onePage).events,
        address < i.image.blockOffset BlockId.entries := by
  obtain ⟨i, hread, hload, -, -, hhandlers, -⟩ := exists_read_onePage
  obtain ⟨-, hexact, hbefore⟩ := entryPoints_loadFile_eq_iff hread hload
  have hmissing : 0xffffffff ∈ i.handlerWords := by
    rw [hhandlers]
    exact List.mem_cons_self
  refine ⟨i, hread, hload, ?_, hbefore.2 ⟨_, hmissing, by decide⟩⟩
  rw [ne_eq, hexact]
  intro hlow
  exact absurd (hlow _ hmissing) (by decide)

/-- All its words tell entries or stand for no code. Two of them tell the first entry, but of the
thirteen entry points eleven stand before it. -/
theorem entryPoints_onePage_before_code :
    ∃ i, Installer.read onePage = .ok i ∧ (loadFile onePage).result = .ok () ∧
      (∀ w ∈ i.sectionWords ++ i.handlerWords, w < 0x80000000 ∨ w = 0xffffffff) ∧
      i.image.blockOffset BlockId.entries = 364 ∧
      ((i.sectionWords ++ i.handlerWords).filter (· ≠ 0xffffffff)).map
        (fun w => i.codeAddress w.toNat) = [364, 364] ∧
      entryPoints (loadFile onePage).events = [336, 364, 336, 364] ++ List.replicate 9 336 := by
  obtain ⟨i, hread, hload, hoffset, hsections, hhandlers, hpoints⟩ := exists_read_onePage
  refine ⟨i, hread, hload, ?_, hoffset, ?_, hpoints⟩
  · rw [hsections, hhandlers, List.nil_append]
    intro w hw
    have hword : w = 0xffffffff ∨ w = 0 := by
      simp only [List.mem_append, List.mem_cons, List.not_mem_nil, or_false,
        List.mem_replicate] at hw
      grind
    rcases hword with rfl | rfl
    · exact .inr rfl
    · exact .inl (by decide)
  · simp only [Installer.codeAddress, hoffset]
    rw [hsections, hhandlers]
    decide +kernel

end Script

end Nsis
