import Mathlib.Tactic.SplitIfs
import Nsis.Proofs.Formula.PlainData
import Nsis.Proofs.Report.KnownFlags
import Nsis.Report.Request

/-!
# Lines on request are lines of the report

A line of a report is put together in two ways: from the numbers, texts and flags that an installer
has, and from data of any kind that come from outside. Where the data are of the kinds that the line
is made of, both give the same line. Requests only look at more: whether there is room for the
tabulators, and what the name of a flag stands for. So a request gives the line behind a look at its
width, and as the names of flags change nothing in the memory, whole lists of requests give their
lines, one after the other.

## Main definitions

* `Nsis.Report.Line` — a line of a report, by its parts.
* `Nsis.Report.Line.text` — the line itself, or why there is none.
* `Nsis.Report.Line.request` — the line as a request, with its parts as data.

## Main results

* `Nsis.Report.Line.gives_line` — a request with the parts of a line gives this line.
* `Nsis.Report.outputs_requests` — requests one after the other print their lines.
* `Nsis.Report.lines_outputs_requests` — requests print what the report prints.
* `Nsis.Report.lines_outputs_ofPage` — in particular, the part of the report on a page.
-/

namespace Nsis.Report

open Evaluation Request

/-! ## Lines by their parts -/

/-- A line of a report, by its parts. -/
inductive Line where
  | heading (text : String) (indent : Int)
  | quotation (text : String) (indent : Int)
  | property (key : String) (value : Value) (indent : Int)
  | flagged (key : String) (value : Int) (flags : List Flag) (indent : Int)
  | named (key : String) (value : Int) (names : List String) (indent : Int)
  | reference (key : String) (address : Int) (i : Installer) (indent : Int)

/-- The value of a property as data. -/
def Value.datum : Value → Datum
  | number n => .number n
  | numbers ns => .list (ns.map .number)
  | text s => .text s

namespace Line

/-- The line that a report has, or why there is none. -/
def text : Line → Except Fault String
  | heading text indent => .ok (Report.heading text indent)
  | quotation text indent => .ok (Report.quotation text indent)
  | property key value indent => .ok (Report.property key value indent)
  | flagged key value flags indent => .ok (Report.flagged key value flags indent)
  | named key value names indent => Report.named key value names indent
  | reference key address i indent => Report.reference i key address indent

/-- The line as a request, with its parts as data. -/
def request : Line → Request
  | heading text indent => .heading (.text text) (.number indent)
  | quotation text indent => .quotation (.text text) (.number indent)
  | property key value indent => .property (.text key) value.datum (.number indent)
  | flagged key value flags indent =>
    .flagged (.text key) (.number value) (.list (flags.map fun f => .text f.name)) (.number indent)
  | named key value names indent =>
    .named (.text key) (.number value) (.list (names.map .text)) (.number indent)
  | reference key address i indent =>
    .reference (.text key) (.number address) (.installer i) (.number indent)

/-- How many tabulators a line begins with. A key stands one step further in, and where there is no
string, at the outermost level. -/
def width : Line → Int
  | heading _ indent | quotation _ indent => indent
  | property _ _ indent | flagged _ _ _ indent | named _ _ _ indent => indent + 1
  | reference _ address _ indent => if address = noString then 1 else indent + 1

/-- The flags that a line asks for. -/
def flags : Line → List Flag
  | flagged _ _ flags _ => flags
  | _ => []

/-- The line, if there is room for its tabulators. -/
def roomyText (l : Line) : Except Fault String := do
  let s ← l.text
  let _ ← tabCount l.width
  return s

end Line

/-! ## Parts as data -/

/-- A number is a number of tabulators if it fits. -/
lemma indentOf_number (n : Int) : indentOf (.number n) = tabCount n :=
  rfl

/-- A number of tabulators is the number itself. -/
lemma eq_of_tabCount {n k : Int} (h : tabCount n = .ok k) : k = n := by
  unfold tabCount at h
  split_ifs at h
  exact (Except.ok.inj h).symm

/-- A text is a key if there is room for its tabulators. -/
lemma keyOf_text (key : String) (indent : Int) :
    keyOf (.text key) (.number indent) = (tabCount (indent + 1)).map fun _ => (key, indent) := by
  show (tabCount (indent + 1) >>= fun n => Except.ok (key ++ "", n - 1)) = _
  cases hcount : tabCount (indent + 1) with
  | error e => rfl
  | ok n =>
    show Except.ok (key ++ "", n - 1) = Except.ok (key, indent)
    rw [eq_of_tabCount hcount, String.append_empty, Int.add_sub_cancel]

/-- Numbers are numbers of a list. -/
lemma numbersOf_map (ns : List Int) : numbersOf (ns.map .number) = .ok ns := by
  induction ns with
  | nil => rfl
  | cons n ns ih =>
    rw [List.map_cons, numbersOf, ih]
    rfl

/-- The value of a property is read from its data. -/
lemma valueOf_datum (v : Value) : valueOf v.datum = .ok v := by
  cases v with
  | number n => rfl
  | numbers ns =>
    show (numbersOf (ns.map .number)).map Value.numbers = _
    rw [numbersOf_map]
    rfl
  | text s => rfl

/-- An address is a number that nothing was added to. -/
lemma addressOf_number (n : Int) : addressOf (.number n) = .ok n :=
  rfl

/-- The item of a list whose items were all changed is the changed item. -/
lemma item_map {α β : Type} (f : α → β) (xs : List α) (i : Int) :
    Signed.item (xs.map f) i = (Signed.item xs i).map f := by
  have hget : Signed.get? (xs.map f) i = (Signed.get? xs i).map f := by
    simp only [Signed.get?, List.length_map, List.getElem?_map]
    split_ifs <;> rfl
  rw [Signed.item, Signed.item, hget]
  cases Signed.get? xs i <;> rfl

/-- A list has no fault of its own for a position outside. -/
lemma itemAt_itemRange {α : Type} (xs : List α) (i : Int) :
    Datum.itemAt .itemRange xs i = Signed.item xs i := by
  unfold Datum.itemAt
  split
  · next h => exact h.symm
  · rfl

/-- The item of a list of texts is a text. -/
lemma item_texts (names : List String) (n : Int) :
    Datum.item (.list (names.map .text)) (.number n) = (Signed.item names n).map .text :=
  (itemAt_itemRange (names.map Datum.text) n).trans (item_map Datum.text names n)

/-- The name of a number among texts. -/
lemma nameOf_texts (names : List String) (n : Int) :
    nameOf (.list (names.map .text)) (.number n) =
      if (names.length : Int) ≤ n then .ok "<unknown>" else Signed.item names n := by
  have hsize : Datum.size (.list (names.map .text)) = .ok names.length := by
    show Except.ok (names.map Datum.text).length = _
    rw [List.length_map]
  have hname : nameOf (.list (names.map .text)) (.number n) =
      if n < names.length then (Signed.item names n).map id else .ok "<unknown>" := by
    unfold nameOf
    rw [hsize]
    show (Datum.isBefore .less (.number n) (.number names.length) >>= fun b => _) = _
    rw [Datum.isBefore_less_numbers, item_texts]
    by_cases h : n < names.length
    · simp only [h, decide_true, if_true]
      cases Signed.item names n <;> rfl
    · simp only [h, decide_false, if_false]
      rfl
  rw [hname, Except.map_id]
  split_ifs with h h' <;> first | rfl | omega

/-! ## Flags by their names -/

section Flags

variable {m : Memory} (h : KnowsFlags m) (value : Int)

include h

/-- A number has something in common with the name of a flag if it has the flag. -/
lemma gives_isFlagged {f : Flag} (hf : f ∈ Flag.all) :
    (isFlagged (.number value) f.name).Gives m (.ok (f.isSet value)) :=
  (h.gives_evaluate hf).bind ((Gives.lift _).bind (Evaluator.gives_holds _ rfl))

/-- The names of the flags that a number has are those of the flags that are set. -/
lemma gives_flagsOf {flags : List Flag} (hflags : ∀ f ∈ flags, f ∈ Flag.all) :
    (flagsOf (.number value) (flags.map fun f => .text f.name)).Gives m
      (.ok ((flags.filter (·.isSet value)).map (·.name))) := by
  induction flags with
  | nil => exact .pure []
  | cons f flags ih =>
    rw [List.forall_mem_cons] at hflags
    refine (gives_isFlagged h value hflags.1).bind ((ih hflags.2).bind ?_)
    rw [List.filter_cons]
    cases f.isSet value <;> exact .pure _

end Flags

/-! ## Requests -/

section Widths

variable {m : Memory} {s : String}

/-- What is behind a look at the width of a line. -/
lemma gives_bind_indentOf {indent : Int} {f : Int → Evaluation String}
    (hf : (f indent).Gives m (.ok s)) :
    (liftM (indentOf (.number indent)) >>= f).Gives m (tabCount indent >>= fun _ => .ok s) := by
  rw [indentOf_number]
  cases hcount : tabCount indent with
  | error e => exact (Gives.lift _).bind_error
  | ok n =>
    obtain rfl := eq_of_tabCount hcount
    exact (Gives.lift _).bind hf

/-- What is behind a look at a key. -/
lemma gives_bind_keyOf {key : String} {indent : Int} {f : String × Int → Evaluation String}
    (hf : (f (key, indent)).Gives m (.ok s)) :
    (liftM (keyOf (.text key) (.number indent)) >>= f).Gives m
      (tabCount (indent + 1) >>= fun _ => .ok s) := by
  rw [keyOf_text]
  cases tabCount (indent + 1) with
  | error e => exact (Gives.lift _).bind_error
  | ok n => exact (Gives.lift _).bind hf

end Widths

namespace Line

/-- **A request with the parts of a line gives this line**, behind a look at its width, and leaves
the memory as it is.

**Proof sketch.** There is a case for each kind of line. A fault of a name or of a string comes
before the look at the width, in the request as in the line. -/
theorem gives_line {m : Memory} (h : KnowsFlags m) {l : Line} (hl : ∀ f ∈ l.flags, f ∈ Flag.all) :
    l.request.line.Gives m l.roomyText := by
  cases l with
  | heading text indent => exact gives_bind_indentOf ((Gives.lift _).bind (.pure _))
  | quotation text indent => exact gives_bind_indentOf ((Gives.lift _).bind (.pure _))
  | property key value indent =>
    refine gives_bind_keyOf ?_
    simp only [valueOf_datum]
    exact (Gives.lift _).bind (.pure _)
  | flagged key value flags indent =>
    refine (Gives.lift (.ok (flags.map fun f => Datum.text f.name))).bind ?_
    refine (gives_flagsOf h value hl).bind (gives_bind_keyOf ?_)
    exact (Gives.lift _).bind (.pure _)
  | named key value names indent =>
    have hline (name : String) : Gives (do
        let p ← keyOf (.text key) (.number indent)
        return explained p.1 (← shownNumber (.number value)) name p.2) m
        (tabCount (indent + 1) >>= fun _ => .ok (explained key value name indent)) :=
      gives_bind_keyOf ((Gives.lift _).bind (.pure _))
    unfold request Request.line roomyText text Report.named
    dsimp only
    rw [nameOf_texts]
    -- a number behind the last name has a line without a look at the names
    split_ifs with hunknown
    · exact (Gives.lift _).bind (hline _)
    · cases Signed.item names value with
      | error e => exact (Gives.lift _).bind_error
      | ok name => exact (Gives.lift _).bind (hline name)
  | reference key address i indent =>
    unfold request Request.line roomyText text Report.reference width
    dsimp only
    rw [Datum.equals_numbers]
    by_cases hnone : address = noString
    · simp only [hnone, decide_true, if_true]
      exact gives_bind_keyOf (.pure _)
    · simp only [hnone, decide_false, Bool.false_eq_true, if_false, addressOf_number]
      refine (Gives.lift _).bind ?_
      cases i.textAt address with
      | error e => exact (Gives.lift _).bind_error
      | ok text => exact (Gives.lift _).bind (gives_bind_keyOf ((Gives.lift _).bind (.pure _)))

/-- The output of a request with the parts of a line, and the memory behind it: nothing but what was
printed before is gone. -/
lemma output_request {m : Memory} (h : KnowsFlags m) {l : Line}
    (hl : ∀ f ∈ l.flags, f ∈ Flag.all) :
    l.request.output m =
      (.ofLines (line? l.roomyText), { m with printed := "", notices := "" }) := by
  have hknown : KnowsFlags { m with printed := "", notices := "" } := h.of_objects_eq rfl
  have hgiven := gives_line hknown hl
  rw [Gives] at hgiven
  unfold Request.output
  rw [hgiven]
  cases l.roomyText with
  | error e => rfl
  | ok s =>
    show (({ lines := ["" ++ s] } : Output), _) = _
    rw [String.empty_append]
    rfl

end Line

/-- **Requests one after the other print their lines.** No line depends on the ones before it.

**Proof sketch.** Induction on the requests; each one leaves a memory that knows the flags. -/
theorem outputs_requests {ls : List Line} (hls : ∀ l ∈ ls, ∀ f ∈ l.flags, f ∈ Flag.all) :
    outputs (ls.map Line.request) = ls.map fun l => .ofLines (line? l.roomyText) := by
  have hfrom : ∀ m, KnowsFlags m → outputsFrom m (ls.map Line.request) =
      ls.map fun l => .ofLines (line? l.roomyText) := by
    induction ls with
    | nil => exact fun m _ => rfl
    | cons l ls ih =>
      intro m hm
      rw [List.forall_mem_cons] at hls
      rw [List.map_cons, outputsFrom, Line.output_request hm hls.1]
      exact congrArg (_ :: ·) (ih hls.2 _ (hm.of_objects_eq rfl))
  exact hfrom initialMemory knowsFlags_initialMemory

/-! ## Parts of the report -/

namespace Line

/-- A line is printed as the report prints it. -/
def printed (l : Line) : Lines :=
  line? l.text

/-- Whether a line has room for its tabulators, and flags that are known. -/
structure Fits (l : Line) : Prop where
  /-- There is room for the tabulators. -/
  room : ∃ n, tabCount l.width = .ok n
  /-- The flags are among those of the format. -/
  known : ∀ f ∈ l.flags, f ∈ Flag.all

/-- A line that has room is the line itself. -/
lemma Fits.roomyText_eq {l : Line} (h : l.Fits) : l.roomyText = l.text := by
  obtain ⟨n, hn⟩ := h.room
  rw [roomyText, hn]
  cases l.text <;> rfl

end Line

/-- **Requests print what the report prints**: where the report prints lines without a fault, the
requests with their parts print the same lines. -/
theorem lines_outputs_requests {ls : List Line} (hls : ∀ l ∈ ls, l.Fits)
    (hok : (Trace.each Line.printed ls).result = .ok ()) :
    (outputs (ls.map Line.request)).flatMap (·.lines) = (Trace.each Line.printed ls).events := by
  rw [outputs_requests fun l hl => (hls l hl).known, Trace.events_each hok, List.flatMap_map]
  refine List.flatMap_congr fun l hl => ?_
  rw [(hls l hl).roomyText_eq]
  rfl

/-- Properties at one level, as lines. -/
def Line.ofProperties (indent : Int) (kvs : List (String × Value)) : List Line :=
  kvs.map fun p => .property p.1 p.2 indent

/-- Properties are printed as lines. -/
lemma each_ofProperties (indent : Int) (kvs : List (String × Value)) :
    Trace.each Line.printed (Line.ofProperties indent kvs) = properties indent kvs := by
  induction kvs with
  | nil => rfl
  | cons p kvs ih =>
    rw [Line.ofProperties, List.map_cons, Trace.each_cons, ← Line.ofProperties, ih]
    rfl

/-- The lines of a page. -/
def Line.ofPage (n : Nat) (p : Page) : List Line :=
  [.heading (itemName "Page" n) 1]
  ++ (Line.ofProperties 1 [("dlg_id", .word p.dialog)]
  ++ ([.named "wndproc_id" p.flags.toInt pageKinds 1]
  ++ (Line.ofProperties 1 [
    ("prefunc", .int p.preFunc), ("showfunc", .int p.showFunc), ("leavefunc", .int p.leaveFunc)]
  ++ ([.flagged "flags" p.flags.toInt Flag.pages 1]
  ++ Line.ofProperties 1 [
    ("caption", .int p.caption), ("back", .int p.back), ("next", .int p.next),
    ("clicknext", .int p.clickNext), ("cancel", .int p.cancel),
    ("params", .numbers (p.params.map (·.toInt)))]))))

/-- The part of the report on a page consists of its lines. -/
lemma pagePart_eq (n : Nat) (p : Page) :
    pagePart n p = Trace.each Line.printed (Line.ofPage n p) := by
  unfold pagePart Line.ofPage
  simp only [Trace.each_append, Trace.each_singleton, each_ofProperties]
  rfl

/-- Properties next to the margin have room. -/
lemma fits_of_mem_ofProperties {kvs : List (String × Value)} {l : Line}
    (hl : l ∈ Line.ofProperties 1 kvs) : l.Fits := by
  obtain ⟨p, -, rfl⟩ := List.mem_map.1 hl
  exact ⟨⟨2, rfl⟩, by simp [Line.flags]⟩

/-- The lines of a page have room, and their flags are known. -/
lemma fits_of_mem_ofPage {n : Nat} {p : Page} {l : Line} (hl : l ∈ Line.ofPage n p) :
    l.Fits := by
  have hpages : ∀ f ∈ Flag.pages, f ∈ Flag.all := by
    intro f hf
    simp only [Flag.all, List.mem_append, hf, true_or, or_true]
  simp only [Line.ofPage, List.mem_append, List.mem_singleton] at hl
  rcases hl with rfl | hl | rfl | hl | rfl | hl
  · exact ⟨⟨1, rfl⟩, by simp [Line.flags]⟩
  · exact fits_of_mem_ofProperties hl
  · exact ⟨⟨2, rfl⟩, by simp [Line.flags]⟩
  · exact fits_of_mem_ofProperties hl
  · exact ⟨⟨2, rfl⟩, hpages⟩
  · exact fits_of_mem_ofProperties hl

/-- **Requests for the lines of a page print the page** as the report does. -/
theorem lines_outputs_ofPage {n : Nat} {p : Page} (hok : (pagePart n p).result = .ok ()) :
    (outputs ((Line.ofPage n p).map Line.request)).flatMap (·.lines) = (pagePart n p).events := by
  rw [pagePart_eq] at hok ⊢
  exact lines_outputs_requests (fun _ => fits_of_mem_ofPage) hok

end Nsis.Report
