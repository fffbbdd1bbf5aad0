import Mathlib.Data.List.Basic
import Mathlib.Data.List.Forall2
import Nsis.Proofs.Image.Stored
import Nsis.Proofs.Installer.Listing
import Nsis.Proofs.Text.Hexadecimal
import Nsis.Report.Dump

/-!
# What the report tells about pages

Every line of the report on a page is a key with a number, or a list of numbers, that can be read
again, and every page takes the same number of lines. So the lines between the headings of the pages
and of the entries determine the pages, as far as their fields are shown. One field is not: the line
for the window procedure shows the flags.

## Main definitions

* `Nsis.Report.pageLines` — the lines of some pages.
* `Nsis.Report.between` — the lines between two headings.
* `Nsis.Report.Output.pageSection` — the lines of a report between the headings of the pages and of
  the entries.

## Main results

* `Nsis.Report.property_injective` — a property determines its value.
* `Nsis.Report.events_pagePart_eq_iff` — the lines of a page determine all but its window procedure.
* `Nsis.Report.pageLines_eq_iff` — the same for the lines of all pages.
* `Nsis.Report.between_dump` — where the lines of pages stand in a report.
* `Nsis.Report.pageSection_eq_iff` — the section of the pages determines all but their window
  procedures.
-/

namespace Nsis

namespace Report

/-! ## Properties -/

namespace Value

/-- Words that are equal as values are equal. -/
lemma word_inj {m n : UInt32} : word m = word n ↔ m = n := by
  simp [word, UInt32.toNat_inj]

/-- Signed words that are equal as values are equal. -/
lemma int_inj {m n : Int32} : int m = int n ↔ m = n := by
  simp [int, Int32.toInt_inj]

/-- Lists of signed words that are equal as values are equal. -/
lemma ints_inj {ms ns : List Int32} :
    numbers (ms.map (·.toInt)) = numbers (ns.map (·.toInt)) ↔ ms = ns := by
  rw [numbers.injEq]
  exact (List.map_injective_iff.2 fun m n => Int32.toInt_inj.1).eq_iff

end Value

/-- **A property determines its value**: the first character of a value tells its kind. -/
lemma property_injective (key : String) (indent : Int) :
    Function.Injective (property key · indent) := by
  have hword : ∀ n, (Text.hexWord n).toList.head? = some '0' := fun n => by
    rw [Text.toList_hexWord, List.head?_cons]
  intro v w h
  replace h := (String.append_right_inj _).1 h
  have hkind := congrArg (fun s => s.toList.head?) h
  -- two values of different kinds begin with different ones of the characters `0`, `[` and `:`
  cases v <;> cases w <;> simp only [String.toList_append, List.head?_append, hword] at h hkind
  case number.number m n => rw [Text.hexWord_injective h]
  case numbers.numbers ms ns =>
    rw [String.append_left_inj, String.append_right_inj] at h
    rw [Text.intercalate_hex_injective h]
  case text.text s t =>
    rw [String.append_left_inj, String.append_right_inj] at h
    rw [h]
  all_goals exact absurd hkind (by simp)

/-- Properties with one key are the same line exactly if their values are equal. -/
@[simp] lemma property_inj {key : String} {v w : Value} {indent : Int} :
    property key v indent = property key w indent ↔ v = w :=
  (property_injective key indent).eq_iff

/-- A number with something that explains it is determined by the line. -/
lemma eq_of_explained_eq {key : String} {m n : Int} {s t : String} {indent : Int}
    (h : explained key m s indent = explained key n t indent) : m = n := by
  have h := congrArg String.toList h
  simp only [explained, String.toList_append, List.append_assoc, List.append_cancel_left_eq] at h
  exact Text.eq_of_hexWord_append h

/-- A number is determined by the line that names its flags. -/
lemma flagged_inj {key : String} {m n : Int} {flags : List Flag} {indent : Int} :
    flagged key m flags indent = flagged key n flags indent ↔ m = n :=
  ⟨eq_of_explained_eq, fun h => h ▸ rfl⟩

/-! ## Pages -/

/-- A page whose kind has a name in the report. -/
def HasKind (p : Page) : Prop :=
  ∃ kind, named "wndproc_id" p.flags.toInt pageKinds 1 = .ok kind

/-- A page is shown only if its kind has a name. -/
lemma hasKind_of_pagePart {n : Nat} {p : Page} (h : (pagePart n p).result = .ok ()) :
    HasKind p := by
  simp only [pagePart, line?, Trace.bind_result_eq_ok] at h
  obtain ⟨-, -, -, -, -, ⟨kind, hkind, -⟩, -⟩ := h
  exact ⟨kind, hkind⟩

/-- The lines of a page. -/
lemma events_pagePart (n : Nat) {p : Page} {kind : String}
    (h : named "wndproc_id" p.flags.toInt pageKinds 1 = .ok kind) :
    (pagePart n p).events = [
      heading (itemName "Page" n) 1, property "dlg_id" (.word p.dialog) 1, kind,
      property "prefunc" (.int p.preFunc) 1, property "showfunc" (.int p.showFunc) 1,
      property "leavefunc" (.int p.leaveFunc) 1, flagged "flags" p.flags.toInt Flag.pages 1,
      property "caption" (.int p.caption) 1, property "back" (.int p.back) 1,
      property "next" (.int p.next) 1,
      property "clicknext" (.int p.clickNext) 1, property "cancel" (.int p.cancel) 1,
      property "params" (.numbers (p.params.map (·.toInt))) 1] := by
  rw [pagePart, h]
  rfl

/-- A page takes thirteen lines. -/
lemma length_events_pagePart {p : Page} (h : HasKind p) (n : Nat) :
    (pagePart n p).events.length = 13 := by
  obtain ⟨kind, hkind⟩ := h
  rw [events_pagePart n hkind]
  rfl

/-- **What the lines of a page tell**: all but its window procedure. -/
lemma events_pagePart_eq_iff {p q : Page} (hp : HasKind p) (hq : HasKind q) (n : Nat) :
    (pagePart n p).events = (pagePart n q).events ↔ p = { q with windowProc := p.windowProc } := by
  obtain ⟨kind, hkind⟩ := hp
  obtain ⟨kind', hkind'⟩ := hq
  rw [events_pagePart n hkind, events_pagePart n hkind']
  constructor
  · intro h
    simp only [List.cons.injEq, property_inj, Value.word_inj, Value.int_inj, Value.ints_inj,
      flagged_inj, Int32.toInt_inj] at h
    obtain ⟨-, hdialog, -, hpre, hshow, hleave, hflags, hcaption, hback, hnext, hclick, hcancel,
        hparams, -⟩ := h
    rw [Page.mk.injEq]
    exact ⟨hdialog, rfl, hpre, hshow, hleave, hflags, hcaption, hback, hnext, hclick, hcancel,
      hparams⟩
  · intro h
    have hflags : p.flags = q.flags := by rw [h]
    have hsame : kind = kind' := by
      rw [hflags, hkind'] at hkind
      exact (Except.ok.inj hkind).symm
    rw [h, hsame]

/-! ## Many pages -/

/-- The lines of some pages, with the numbers from `k` on. -/
def pageLines (k : Nat) (ps : List Page) : List String :=
  (ps.zipIdx k).flatMap fun a => (pagePart a.2 a.1).events

/-- No pages take no lines. -/
@[simp] lemma pageLines_nil (k : Nat) : pageLines k [] = [] := rfl

/-- The lines of a page come before those of the pages behind it. -/
lemma pageLines_cons (k : Nat) (p : Page) (ps : List Page) :
    pageLines k (p :: ps) = (pagePart k p).events ++ pageLines (k + 1) ps := rfl

/-- A page takes lines. -/
lemma pageLines_cons_ne_nil {p : Page} (h : HasKind p) (k : Nat) (ps : List Page) :
    pageLines k (p :: ps) ≠ [] := by
  intro hnil
  have hlength := length_events_pagePart h k
  have hfirst : (pagePart k p).events = [] := (List.append_eq_nil_iff.1 hnil).1
  rw [hfirst] at hlength
  cases hlength

/-- **What the lines of all pages tell**: how many there are, and of each all but its window
procedure.

**Proof sketch.** Induction on the pages. As each of them takes the same number of lines, the lines
of the first page are equal, and so are the lines of the others. -/
lemma pageLines_eq_iff {ps qs : List Page} (hps : ∀ p ∈ ps, HasKind p) (hqs : ∀ q ∈ qs, HasKind q)
    (k : Nat) :
    pageLines k ps = pageLines k qs ↔
      List.Forall₂ (fun p q => p = { q with windowProc := p.windowProc }) ps qs := by
  induction ps generalizing qs k with
  | nil =>
    cases qs with
    | nil => simp
    | cons q qs =>
      have hne := pageLines_cons_ne_nil (hqs q List.mem_cons_self) k qs
      simp [hne.symm]
  | cons p ps ih =>
    cases qs with
    | nil =>
      have hne := pageLines_cons_ne_nil (hps p List.mem_cons_self) k ps
      simp [hne]
    | cons q qs =>
      rw [List.forall_mem_cons] at hps hqs
      have hlength : (pagePart k p).events.length = (pagePart k q).events.length := by
        rw [length_events_pagePart hps.1, length_events_pagePart hqs.1]
      rw [List.forall₂_cons, ← events_pagePart_eq_iff hps.1 hqs.1 k, ← ih hps.2 hqs.2 (k + 1),
        pageLines_cons, pageLines_cons]
      constructor
      · intro h
        exact List.append_inj h hlength
      · rintro ⟨hfirst, hothers⟩
        rw [hfirst, hothers]

/-- The part on pages: behind its heading, the lines of all pages. -/
lemma events_pagesPart {i : Installer} (h : (pagesPart i).result = .ok ()) :
    (pagesPart i).events = "" :: "Pages" :: pageLines 0 i.pages ∧ ∀ p ∈ i.pages, HasKind p := by
  -- the blank line and the heading cannot fail
  have heach : (Trace.each (fun a => pagePart a.1 a.2) (numbered i.pages)).result = .ok () := h
  constructor
  · have hevents : (pagesPart i).events =
        "" :: "Pages" :: (Trace.each (fun a => pagePart a.1 a.2) (numbered i.pages)).events := rfl
    rw [hevents, Trace.events_each heach, numbered, List.mapIdx_eq_zipIdx_map, List.flatMap_map]
    rfl
  · intro p hp
    obtain ⟨n, hn, rfl⟩ := List.mem_iff_getElem.1 hp
    have hmem : (n, i.pages[n]) ∈ numbered i.pages := List.mem_mapIdx.2 ⟨n, hn, rfl⟩
    have hpart := Trace.result_of_result_each heach hmem
    exact hasKind_of_pagePart hpart

/-! ## How lines begin -/

/-- A text begins with a character. -/
def Begins (c : Char) (s : String) : Prop :=
  s.toList.head? = some c

/-- What a text begins with, it still begins with when another one follows. -/
lemma Begins.append {c : Char} {s : String} (h : Begins c s) (t : String) : Begins c (s ++ t) := by
  rw [Begins, String.toList_append, List.head?_append, h, Option.some_or]

/-- An indentation begins with a tabulator. -/
lemma begins_tabs {n : Int} (h : 0 < n) : Begins '\t' (tabs n) := by
  obtain ⟨k, hk⟩ : ∃ k, n.toNat = k + 1 := ⟨n.toNat - 1, by omega⟩
  rw [Begins, tabs, String.toList_ofList, hk, List.replicate_succ, List.head?_cons]

/-- A heading that is not indented is its text. -/
lemma heading_zero (text : String) : heading text 0 = text := by
  rw [heading, ← String.toList_inj, String.toList_append]
  rfl

/-- A key begins with a tabulator. -/
lemma begins_keyText (key : String) {indent : Int} (h : 0 ≤ indent) :
    Begins '\t' (keyText key indent) :=
  ((begins_tabs (by omega)).append _).append _

/-- A property begins with a tabulator. -/
lemma begins_property (key : String) (value : Value) {indent : Int} (h : 0 ≤ indent) :
    Begins '\t' (property key value indent) :=
  (begins_keyText key h).append _

/-- A number with its meaning begins with a tabulator. -/
lemma begins_explained (key : String) (value : Int) (meaning : String) {indent : Int}
    (h : 0 ≤ indent) : Begins '\t' (explained key value meaning indent) :=
  ((((begins_keyText key h).append _).append _).append _).append _

/-- A number with its own name begins with a tabulator. -/
lemma begins_of_named {key : String} {value : Int} {names : List String} {indent : Int} {s : String}
    (hs : named key value names indent = .ok s) (h : 0 ≤ indent) : Begins '\t' s := by
  rw [named] at hs
  split at hs
  · cases hs
    exact begins_explained key value _ h
  · obtain ⟨name, -, rfl⟩ := Fault.map_eq_ok.1 hs
    exact begins_explained key value name h

/-- The address of a string with its text begins with a tabulator. -/
lemma begins_of_reference {i : Installer} {key : String} {address indent : Int} {s : String}
    (hs : reference i key address indent = .ok s) (h : 0 ≤ indent) : Begins '\t' s := by
  rw [reference] at hs
  split at hs
  · cases hs
    exact begins_property key _ le_rfl
  · obtain ⟨text, -, hs⟩ := Fault.bind_eq_ok.1 hs
    cases hs
    exact (((begins_keyText key h).append _).append _).append _

/-! ## The lines of a part -/

section Shows

variable {α β : Type} {P : String → Prop}

/-- All lines that are printed have a property, whether there is a fault or not. -/
def Shows (P : String → Prop) (t : Trace String α) : Prop :=
  ∀ s ∈ t.events, P s

/-- Computations one behind the other show what each of them shows. -/
lemma Shows.bind {t : Trace String α} {f : α → Trace String β} (ht : Shows P t)
    (hf : ∀ a, Shows P (f a)) : Shows P (t >>= f) := by
  intro s hs
  rcases Trace.mem_events_bind.1 hs with hs | ⟨a, -, hs⟩
  · exact ht s hs
  · exact hf a s hs

/-- A loop shows what each of its rounds shows. -/
lemma shows_each {f : α → Lines} {as : List α} (h : ∀ a, Shows P (f a)) :
    Shows P (Trace.each f as) := by
  intro s hs
  obtain ⟨a, -, hs⟩ := Trace.exists_of_mem_events_each hs
  exact h a s hs

/-- A line shows itself. -/
lemma shows_line {s : String} (h : P s) : Shows P (line s) := by
  intro t ht
  rw [Trace.mem_events_emit.1 ht]
  exact h

/-- What records nothing shows nothing. -/
lemma shows_ofExcept (r : Except Fault α) : Shows P (Trace.ofExcept r) := by
  intro s hs
  cases hs

/-- A line that may fail shows itself, if it is there. -/
lemma shows_line? {r : Except Fault String} (h : ∀ s, r = .ok s → P s) : Shows P (line? r) := by
  intro s hs
  rcases Trace.mem_events_bind.1 hs with hs | ⟨t, ht, hs⟩
  · cases hs
  · rw [Trace.mem_events_emit.1 hs]
    exact h t ht

/-- Properties show lines that begin with a tabulator. -/
lemma shows_properties {indent : Int} (h : 0 ≤ indent) (kvs : List (String × Value)) :
    Shows (Begins '\t') (properties indent kvs) :=
  shows_each fun kv => shows_line (begins_property kv.1 kv.2 h)

end Shows

/-- A line that does not begin as the heading of the pages does. -/
def Apart (s : String) : Prop :=
  ¬ Begins 'P' s

/-- A line that begins otherwise is apart from the title of the pages. -/
lemma Begins.apart {c : Char} {s : String} (h : Begins c s) (hc : c ≠ 'P') : Apart s := by
  intro hd
  exact hc (Option.some.inj (h.symm.trans hd))

/-- Lines that begin with a tabulator are apart from the title of the pages. -/
lemma Shows.apart {α : Type} {t : Trace String α} (h : Shows (Begins '\t') t) : Shows Apart t :=
  fun s hs => (h s hs).apart (by decide)

/-- Among such lines the heading of the pages is not found. -/
lemma Shows.pages_notMem {α : Type} {t : Trace String α} (h : Shows Apart t) : "Pages" ∉ t.events :=
  fun hmem => h _ hmem rfl

/-- A blank line is apart from the title of the pages. -/
lemma apart_blank : Shows Apart (line "") :=
  shows_line (by simp [Apart, Begins])

/-- A title is apart from that of the pages if its text is. -/
lemma apart_title {s : String} (h : Apart s) : Shows Apart (title s) := by
  rw [title, heading_zero]
  exact shows_line h

/-- The introduction is apart from the title of the pages. -/
lemma apart_introduction (path : String) (i : Installer) : Shows Apart (introduction path i) := by
  have htool : Begins 'N' "NSISDump v0.1" := rfl
  have hpath : Begins 'I' "Installer path: " := rfl
  have hversion : Begins 'N' "NSIS version: " := rfl
  unfold introduction
  refine (shows_line (htool.apart (by decide))).bind fun _ => apart_blank.bind fun _ => ?_
  refine (shows_line ((hpath.append path).apart (by decide))).bind fun _ => ?_
  exact shows_line ((((hversion.append _).append _).append _).apart (by decide))

/-- The part on the first header is apart from the title of the pages. -/
lemma apart_firstHeaderPart (h : FirstHeader) : Shows Apart (firstHeaderPart h) := by
  have htitle : Begins 'F' "FirstHeader @ " := rfl
  unfold firstHeaderPart
  refine apart_blank.bind fun _ => (apart_title ((htitle.append _).apart (by decide))).bind fun _ =>
    Shows.apart ?_
  exact (shows_line (begins_explained _ _ _ le_rfl)).bind fun _ => shows_properties le_rfl _

/-- The part on a block shows lines that begin with a tabulator. -/
lemma shows_blockPart (name : String) (n : Nat) (b : BlockHeader) :
    Shows (Begins '\t') (blockPart name n b) :=
  (shows_line ((begins_tabs (by decide)).append _)).bind fun _ => shows_properties (by decide) _

/-- The addresses of strings in the header show lines that begin with a tabulator. -/
lemma shows_reference (i : Installer) (key : String) (address : Int) :
    Shows (Begins '\t') (line? (reference i key address 0)) :=
  shows_line? fun _ hs => begins_of_reference hs le_rfl

/-- The part on the header is apart from the title of the pages. -/
lemma apart_headerPart (i : Installer) : Shows Apart (headerPart i) := by
  have htitle : Begins 'I' "Inflated header" := rfl
  have hblocks : Begins 'B' (itemName "Blocks" i.image.header.blocks.length) :=
    ((Begins.append (show Begins 'B' "Blocks" from rfl) _).append _).append _
  unfold headerPart
  refine apart_blank.bind fun _ => (apart_title (htitle.apart (by decide))).bind fun _ => ?_
  refine (shows_line (begins_explained _ _ _ le_rfl)).apart.bind fun _ => ?_
  refine (apart_title ((hblocks.append _).apart (by decide))).bind fun _ => Shows.apart ?_
  refine Shows.bind (shows_each ?_) fun _ => ?_
  · rintro ⟨n, name, b⟩
    exact shows_blockPart name n b
  refine (shows_properties le_rfl _).bind fun _ =>
    (shows_line ((begins_tabs (by decide)).append _)).bind fun _ => ?_
  refine (shows_properties (by decide) _).bind fun _ => (shows_reference i _ _).bind fun _ => ?_
  exact (shows_reference i _ _).bind fun _ => (shows_reference i _ _).bind fun _ =>
    (shows_reference i _ _).bind fun _ => shows_reference i _ _

/-- The part on the strings is apart from the title of the pages. -/
lemma apart_stringsPart (i : Installer) : Shows Apart (stringsPart i) := by
  have htitle : Begins 'S' "Strings" := rfl
  unfold stringsPart
  refine apart_blank.bind fun _ => (apart_title (htitle.apart (by decide))).bind fun _ =>
    Shows.apart ?_
  refine (shows_ofExcept _).bind fun _ => shows_each fun s => shows_line ?_
  exact (((begins_tabs (by decide)).append _).append _).append _

/-- The part on a page shows lines that begin with a tabulator. -/
lemma shows_pagePart (n : Nat) (p : Page) : Shows (Begins '\t') (pagePart n p) := by
  refine (shows_line ((begins_tabs (by decide)).append _)).bind fun _ => ?_
  refine (shows_properties (by decide) _).bind fun _ => ?_
  refine (shows_line? fun _ hs => begins_of_named hs (by decide)).bind fun _ => ?_
  refine (shows_properties (by decide) _).bind fun _ => ?_
  exact (shows_line (begins_explained _ _ _ (by decide))).bind fun _ =>
    shows_properties (by decide) _

/-- Among the lines of pages the heading of the entries is not found. -/
lemma entries_notMem_pageLines (k : Nat) (ps : List Page) : "Entries" ∉ pageLines k ps := by
  intro hmem
  obtain ⟨a, -, ha⟩ := List.mem_flatMap.1 hmem
  have hbegins : Begins '\t' "Entries" := shows_pagePart a.2 a.1 _ ha
  exact absurd hbegins (by simp [Begins])

/-! ## The lines between two headings -/

/-- The lines behind one heading and before another. -/
def between (first last : String) (lines : List String) : List String :=
  ((lines.dropWhile (· ≠ first)).drop 1).takeWhile (· ≠ last)

/-- What stands between two lines is found if neither of them comes earlier. -/
lemma between_append {first last : String} {before middle : List String} (hfirst : first ∉ before)
    (hlast : last ∉ middle) (after : List String) :
    between first last (before ++ first :: (middle ++ last :: after)) = middle := by
  have hbefore : ∀ s ∈ before, decide (s ≠ first) = true :=
    fun s hs => decide_eq_true (ne_of_mem_of_not_mem hs hfirst)
  have hmiddle : ∀ s ∈ middle, decide (s ≠ last) = true :=
    fun s hs => decide_eq_true (ne_of_mem_of_not_mem hs hlast)
  rw [between, List.dropWhile_append_of_pos hbefore, List.dropWhile_cons_of_neg (by simp),
    List.drop_one, List.tail_cons, List.takeWhile_append_of_pos hmiddle,
    List.takeWhile_cons_of_neg (by simp), List.append_nil]

/-- The lines of the report between the heading of the pages and that of the entries. -/
def Output.pageSection (o : Output) : List String :=
  between "Pages" "Entries" o.lines

/-- **The section of the pages** in a report that is complete: the lines of all pages, and the blank
line behind them.

**Proof sketch.** No line before the heading of the pages begins as it does, and all lines of pages
are indented, so that the section ends at the heading of the entries. -/
lemma between_dump {path : String} {i : Installer} (h : (dump path i).result = .ok ()) :
    between "Pages" "Entries" (dump path i).events = pageLines 0 i.pages ++ [""] ∧
      ∀ p ∈ i.pages, HasKind p := by
  simp only [dump, Trace.bind_result_eq_ok] at h
  obtain ⟨_, hintroduction, _, hfirst, _, hheader, _, hstrings, _, hpages, _, hentries, -⟩ := h
  obtain ⟨hlines, hkind⟩ := events_pagesPart hpages
  refine ⟨?_, hkind⟩
  have hbehind : (entriesPart i).events =
      "" :: "Entries" :: [property "size" (.number i.entries.length) 0] := rfl
  have hshape : (dump path i).events =
      ((introduction path i).events ++ (firstHeaderPart i.image.first).events ++
          (headerPart i).events ++ (stringsPart i).events ++ [""]) ++
        "Pages" :: ((pageLines 0 i.pages ++ [""]) ++
          "Entries" :: (property "size" (.number i.entries.length) 0 ::
            (sectionsPart i).events)) := by
    rw [dump, Trace.events_bind_ok _ hintroduction, Trace.events_bind_ok _ hfirst,
      Trace.events_bind_ok _ hheader, Trace.events_bind_ok _ hstrings,
      Trace.events_bind_ok _ hpages, Trace.events_bind_ok _ hentries, hlines, hbehind]
    simp
  rw [hshape, between_append]
  · simp only [List.mem_append, List.mem_singleton, not_or]
    exact ⟨⟨⟨⟨(apart_introduction path i).pages_notMem,
      (apart_firstHeaderPart i.image.first).pages_notMem⟩, (apart_headerPart i).pages_notMem⟩,
        (apart_stringsPart i).pages_notMem⟩, by decide⟩
  · simp only [List.mem_append, List.mem_singleton, not_or]
    exact ⟨entries_notMem_pageLines 0 i.pages, by decide⟩

/-- The report on a file that holds an installer. -/
lemma run_of_read {path : String} {f : File} {i : Installer} (hread : Installer.read f = .ok i) :
    run path f = .ofLines (dump path i) := by
  rw [run, hread]

/-- An output without a fault comes of lines that end without one. -/
lemma result_of_fault_eq_none {t : Lines} (h : (Output.ofLines t).fault = none) :
    t.result = .ok () := by
  simp only [Output.ofLines] at h
  split at h
  · assumption
  · cases h

/-- The section of the pages in the report on an installer, if there is no fault. -/
lemma pageSection_run {path : String} {f : File} {i : Installer} (hread : Installer.read f = .ok i)
    (hfault : (run path f).fault = none) :
    (run path f).pageSection = pageLines 0 i.pages ++ [""] ∧ ∀ p ∈ i.pages, HasKind p := by
  rw [run_of_read hread] at hfault ⊢
  exact between_dump (result_of_fault_eq_none hfault)

/-- **What the report tells about pages.** For any two installers on which a report is printed
without a fault, the lines between the headings of the pages and of the entries are the same exactly
if there are as many pages and they agree, one by one, in everything but their window procedures. In
the place of the window procedure, the flags are shown once more, with the name of the kind that has
their number. -/
theorem pageSection_eq_iff {path path' : String} {f g : File} {i j : Installer}
    (hi : Installer.read f = .ok i) (hj : Installer.read g = .ok j) (hf : (run path f).fault = none)
    (hg : (run path' g).fault = none) :
    (run path f).pageSection = (run path' g).pageSection ↔
      List.Forall₂ (fun p q => p = { q with windowProc := p.windowProc }) i.pages j.pages := by
  obtain ⟨hlines, hkinds⟩ := pageSection_run hi hf
  obtain ⟨hlines', hkinds'⟩ := pageSection_run hj hg
  rw [hlines, hlines', List.append_left_inj, pageLines_eq_iff hkinds hkinds']

/-! ## Complete reports -/

/-- The addresses of strings that the report on a header looks up. -/
def stringAddresses (h : Header) : List Int := [
  h.installDirPtr.toNat, h.installDirAppend.toNat, h.uninstChild.toInt, h.uninstCmd.toInt,
    h.winInit.toInt]

/-- The address of a string is shown without a fault if there is a text. -/
lemma result_reference {i : Installer} {address : Int} (h : ∃ text, i.textAt address = .ok text)
    (key : String) : (line? (reference i key address 0)).result = .ok () := by
  obtain ⟨text, htext⟩ := h
  rw [reference, htext]
  split <;> rfl

/-- The part on the header ends without a fault if its strings have texts. -/
lemma result_headerPart {i : Installer}
    (h : ∀ address ∈ stringAddresses i.image.header, ∃ text, i.textAt address = .ok text) :
    (headerPart i).result = .ok () := by
  simp only [stringAddresses, List.forall_mem_cons] at h
  obtain ⟨hdir, happend, hchild, hcmd, hinit, -⟩ := h
  simp only [headerPart, Trace.bind_result_eq_ok]
  refine ⟨(), rfl, (), rfl, (), rfl, (), rfl, (), Trace.result_each ?_, (), Trace.result_each ?_,
    (), rfl, (), Trace.result_each ?_, (), result_reference hdir _, (), result_reference happend _,
    (), result_reference hchild _,
    (), result_reference hcmd _, result_reference hinit _⟩
  all_goals exact fun _ _ => rfl

/-- The part on a page ends without a fault if the page has a kind. -/
lemma result_pagePart {p : Page} (h : HasKind p) (n : Nat) : (pagePart n p).result = .ok () := by
  obtain ⟨kind, hkind⟩ := h
  rw [pagePart, hkind]
  rfl

/-- The report on an installer without sections is complete if its strings can be decoded and its
pages have kinds. -/
lemma result_dump (path : String) {i : Installer}
    (haddresses : ∀ address ∈ stringAddresses i.image.header, ∃ text, i.textAt address = .ok text)
    (htexts : ∃ texts, Strings.texts i.strings = .ok texts) (hpages : ∀ p ∈ i.pages, HasKind p)
    (hsections : i.sections = []) : (dump path i).result = .ok () := by
  have hstrings : (stringsPart i).result = .ok () := by
    obtain ⟨texts, htexts⟩ := htexts
    rw [stringsPart, htexts]
    exact Trace.result_each fun _ _ => rfl
  have hpart : (pagesPart i).result = .ok () := by
    have heach : (Trace.each (fun a => pagePart a.1 a.2) (numbered i.pages)).result = .ok () := by
      refine Trace.result_each fun a ha => ?_
      obtain ⟨n, hn, rfl⟩ := List.mem_mapIdx.1 ha
      exact result_pagePart (hpages _ (List.getElem_mem hn)) n
    exact heach
  have hlast : (sectionsPart i).result = .ok () := by
    rw [sectionsPart, hsections]
    rfl
  have hfirst : (firstHeaderPart i.image.first).result = .ok () := rfl
  simp only [dump, Trace.bind_result_eq_ok]
  exact ⟨(), rfl, (), hfirst, (), result_headerPart haddresses, (), hstrings, (), hpart, (),
    rfl, hlast⟩

/-! ## Installers with one page -/

/-- A page with a given window procedure and given flags. -/
def samplePage (windowProc : UInt32) (flags : Int32) : Page :=
  ⟨105, windowProc, -1, 0, -1, flags, 0, -2, 0, 0, 0, [-1, 2, 3, 4, 5]⟩

/-- The unpacked header of an installer with this page, an empty string and nothing else. -/
def sampleHeader (windowProc : UInt32) (flags : Int32) : Bytes :=
  ([0, 300, 1, 0, 0, 364, 0, 364, 0, 366, 0, 0, 0, 0, 0, 0, 0] ++ List.replicate 58 0 ++
    [105, windowProc, 0xffffffff, 0, 0xffffffff, flags.toUInt32, 0, 0xfffffffe, 0, 0, 0, 5, 4, 3, 2,
      0xffffffff] :
      List UInt32).flatMap Bytes.ofWord ++ [0, 0]

/-- The header of the sample has 366 bytes. -/
lemma length_sampleHeader (windowProc : UInt32) (flags : Int32) :
    (sampleHeader windowProc flags).length = 366 := by
  simp [sampleHeader]

/-- An installer with this header. -/
def sample (windowProc : UInt32) (flags : Int32) : File :=
  ⟨(Frame.installer (sampleHeader windowProc flags) []
    (by rw [length_sampleHeader]; decide)).content, 0⟩

/-- The window procedures and flags of the installers that are looked at. -/
def sampleFields : List (UInt32 × Int32) :=
  [(1, 6), (2, 6), (1, -1)]

/-- What is read of these installers. -/
lemma read_sample {windowProc : UInt32} {flags : Int32} (h : (windowProc, flags) ∈ sampleFields) :
    ∃ i, Installer.read (sample windowProc flags) = .ok i ∧
      i.pages = [samplePage windowProc flags] ∧
      i.sections = [] ∧ i.strings = [0, 0] ∧ stringAddresses i.image.header = [0, 0, 0, 0, 0] := by
  have hview : (Installer.read (sample windowProc flags)).toOption.map
      (fun i => (i.pages, i.sections, i.strings, stringAddresses i.image.header)) =
        some ([samplePage windowProc flags], [], [0, 0], [0, 0, 0, 0, 0]) := by
    rw [sample, Frame.read_installer (by rw [length_sampleHeader]; decide)]
    simp only [sampleFields, List.mem_cons, List.not_mem_nil, or_false, Prod.mk.injEq] at h
    obtain ⟨rfl, rfl⟩ | ⟨rfl, rfl⟩ | ⟨rfl, rfl⟩ := h <;> decide +kernel
  obtain ⟨i, hread, hview⟩ := Fault.exists_of_toOption_map hview
  simp only [Prod.mk.injEq] at hview
  exact ⟨i, hread, hview⟩

/-- Their reports are complete. -/
lemma exists_read_sample (windowProc : UInt32) (flags : Int32) (path : String)
    (h : (windowProc, flags) ∈ sampleFields) :
    ∃ i, Installer.read (sample windowProc flags) = .ok i ∧
      i.pages = [samplePage windowProc flags] ∧
      (run path (sample windowProc flags)).fault = none := by
  obtain ⟨i, hread, hpages, hsections, hstrings, haddresses⟩ := read_sample h
  refine ⟨i, hread, hpages, ?_⟩
  have htext : i.textAt 0 = .ok "" := by
    rw [Installer.textAt, hstrings]
    rfl
  have htexts : Strings.texts i.strings = .ok [] := by
    rw [hstrings]
    exact Strings.texts_zero (Strings.texts_zero (by rw [Strings.texts]))
  have hkind : HasKind (samplePage windowProc flags) := by
    simp only [sampleFields, List.mem_cons, List.not_mem_nil, or_false, Prod.mk.injEq] at h
    obtain ⟨rfl, rfl⟩ | ⟨rfl, rfl⟩ | ⟨rfl, rfl⟩ := h <;> exact ⟨_, rfl⟩
  have hresult : (dump path i).result = .ok () := by
    refine result_dump path ?_ ⟨[], htexts⟩ ?_ hsections
    · rw [haddresses]
      intro address haddress
      rw [List.eq_of_mem_replicate (n := 5) haddress]
      exact ⟨"", htext⟩
    · rw [hpages]
      exact List.forall_mem_singleton.2 hkind
  rw [run_of_read hread, Output.ofLines, hresult]

/-- Two pages with the same window procedure and other flags are told from each other. -/
theorem pageSection_tells_flags :
    ∃ i j, Installer.read (sample 1 6) = .ok i ∧ Installer.read (sample 1 (-1)) = .ok j ∧
      (run "installer.exe" (sample 1 6)).fault = none ∧
        (run "installer.exe" (sample 1 (-1))).fault = none ∧
      (run "installer.exe" (sample 1 6)).pageSection ≠
        (run "installer.exe" (sample 1 (-1))).pageSection := by
  obtain ⟨i, hi, hpages, hf⟩ := exists_read_sample 1 6 "installer.exe" (by simp [sampleFields])
  obtain ⟨j, hj, hpages', hg⟩ := exists_read_sample 1 (-1) "installer.exe" (by simp [sampleFields])
  refine ⟨i, j, hi, hj, hf, hg, ?_⟩
  rw [ne_eq, pageSection_eq_iff hi hj hf hg, hpages, hpages', List.forall₂_cons]
  rintro ⟨hpage, -⟩
  exact absurd (congrArg Page.flags hpage) (by decide)

/-- Two pages that differ in their window procedures alone are shown by the same lines. -/
theorem pageSection_hides_windowProc :
    ∃ i j, Installer.read (sample 1 6) = .ok i ∧ Installer.read (sample 2 6) = .ok j ∧
      (run "installer.exe" (sample 1 6)).fault = none ∧
        (run "installer.exe" (sample 2 6)).fault = none ∧
      (run "installer.exe" (sample 1 6)).pageSection =
        (run "installer.exe" (sample 2 6)).pageSection ∧
      i.pages = [samplePage 1 6] ∧ j.pages = [samplePage 2 6] ∧ i.pages ≠ j.pages := by
  obtain ⟨i, hi, hpages, hf⟩ := exists_read_sample 1 6 "installer.exe" (by simp [sampleFields])
  obtain ⟨j, hj, hpages', hg⟩ := exists_read_sample 2 6 "installer.exe" (by simp [sampleFields])
  obtain ⟨hlines, hkinds⟩ := pageSection_run hi hf
  obtain ⟨hlines', hkinds'⟩ := pageSection_run hj hg
  refine ⟨i, j, hi, hj, hf, hg, ?_, hpages, hpages', ?_⟩
  · rw [hlines, hlines', List.append_left_inj, pageLines_eq_iff hkinds hkinds', hpages, hpages']
    exact .cons rfl .nil
  · rw [hpages, hpages', ne_eq, List.cons.injEq]
    rintro ⟨hpage, -⟩
    exact absurd (congrArg Page.windowProc hpage) (by decide)

end Report

end Nsis
