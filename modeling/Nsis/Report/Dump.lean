import Nsis.Report.Line

/-!
# The report on an installer

Everything that is known about an installer, part by part. The report ends early where a string
cannot be decoded or a page is of an impossible kind; the lines before are kept.

## Main definitions

* `Nsis.Report.pagePart`, `Nsis.Report.sectionPart`, … — the parts of the report.
* `Nsis.Report.dump` — the whole report.
* `Nsis.Report.Output` — what a run of the tool leaves behind.
* `Nsis.Report.run` — the report on a file.
* `Nsis.Report.command` — the tool with its arguments.
-/

namespace Nsis.Report

/-- Lines that are printed until a fault ends the report. -/
abbrev Lines := Trace String Unit

/-- Print one line. -/
def line (s : String) : Lines := Trace.emit s

/-- Print a line that may fail. -/
def line? (r : Except Fault String) : Lines := do
  line (← Trace.ofExcept r)

/-- Print a heading. -/
def title (s : String) (indent : Int := 0) : Lines :=
  line (heading s indent)

/-- Print properties at one level. -/
def properties (indent : Int) (kvs : List (String × Value)) : Lines :=
  Trace.each (fun (k, v) => line (property k v indent)) kvs

/-- Number the items of a list from zero. -/
def numbered {α : Type} (xs : List α) : List (Nat × α) :=
  xs.mapIdx fun i x => (i, x)

/-- The name of an item of a list, `Page[0]`. -/
def itemName (name : String) (i : Nat) : String :=
  name ++ "[" ++ Text.decimal i ++ "]"

/-- Where the tool and the installer are named. -/
def introduction (path : String) (i : Installer) : Lines := do
  line "NSISDump v0.1"
  line ""
  line ("Installer path: " ++ path)
  line ("NSIS version: " ++ i.codes.version ++ "." ++ Installer.minorVersion)

/-- The first header. -/
def firstHeaderPart (h : FirstHeader) : Lines := do
  line ""
  title ("FirstHeader @ " ++ Text.hex h.headerOffset)
  line (flagged "Flags" h.flags.toNat Flag.firstHeader 0)
  properties 0 [
    ("Siginfo", .word h.signature),
    ("Magics", .text (String.ofList (h.magic.map fun c => Char.ofNat c.toNat))),
    ("Header Size", .word h.packedSize),
    ("Inflated Size", .word h.unpackedSize)]

/-- One block of the header. -/
def blockPart (name : String) (n : Nat) (b : BlockHeader) : Lines := do
  title (itemName "Block" n ++ " - " ++ name ++ ":") 1
  properties 1 [("Offset", .word b.offset), ("Num", .word b.num)]

/-- The settings of the header that are shown as numbers. -/
def settings (h : Header) : List (String × Value) := [
  ("install_reg_rootkey", .word h.regRootKey),
  ("install_reg_key_ptr", .word h.regKeyPtr),
  ("install_reg_value_ptr", .word h.regValuePtr),
  ("bg_color1s", .word h.bgColor1),
  ("bg_color2", .word h.bgColor2),
  ("bg_textcolor", .word h.bgTextColor),
  ("lb_bg", .word h.lbBg),
  ("lb_fg", .word h.lbFg),
  ("langtable_size", .word h.langTableSize),
  ("license_bg", .word h.licenseBg),
  ("code_onInit", .int h.onInit),
  ("code_onInstSucess", .int h.onInstSuccess),
  ("code_onInstFailed", .int h.onInstFailed),
  ("code_onUserAbort", .int h.onUserAbort),
  ("code_onGUIInit", .int h.onGuiInit),
  ("code_onGUIEnd", .int h.onGuiEnd),
  ("code_onMouseOverSection", .int h.onMouseOverSection),
  ("code_onVerifyInstDir", .int h.onVerifyInstDir),
  ("code_onSelChange", .int h.onSelChange),
  ("code_onRebootFailed", .int h.onRebootFailed)]

/-- The header. Install types that are zero are left out. -/
def headerPart (i : Installer) : Lines := do
  let h := i.image.header
  line ""
  title "Inflated header"
  line (flagged "Flags" h.flags.toNat Flag.header 0)
  title (itemName "Blocks" h.blocks.length ++ ":")
  Trace.each (fun (n, name, b) => blockPart name n b) (numbered (blockNames.zip h.blocks))
  properties 0 (settings h)
  title "install_types:" 1
  properties 1 (((numbered h.installTypes).filter fun (_, t) => t ≠ 0).map fun (n, t) =>
    (itemName "install_types" n, .int t))
  line? (reference i "install_directory_ptr" h.installDirPtr.toNat 0)
  line? (reference i "install_directory_auto_append" h.installDirAppend.toNat 0)
  line? (reference i "str_uninstchild" h.uninstChild.toInt 0)
  line? (reference i "str_uninstcmd" h.uninstCmd.toInt 0)
  line? (reference i "str_wininit" h.winInit.toInt 0)

/-- All strings; if one of them cannot be decoded, none is shown. -/
def stringsPart (i : Installer) : Lines := do
  line ""
  title "Strings"
  let texts ← Trace.ofExcept (Strings.texts i.strings)
  Trace.each (fun s => line (quotation s 1)) texts

/-- One page. The name of its kind is taken from its flags. -/
def pagePart (n : Nat) (p : Page) : Lines := do
  title (itemName "Page" n) 1
  properties 1 [("dlg_id", .word p.dialog)]
  line? (named "wndproc_id" p.flags.toInt pageKinds 1)
  properties 1 [
    ("prefunc", .int p.preFunc), ("showfunc", .int p.showFunc), ("leavefunc", .int p.leaveFunc)]
  line (flagged "flags" p.flags.toInt Flag.pages 1)
  properties 1 [
    ("caption", .int p.caption), ("back", .int p.back), ("next", .int p.next),
    ("clicknext", .int p.clickNext), ("cancel", .int p.cancel),
    ("params", .numbers (p.params.map (·.toInt)))]

/-- All pages. -/
def pagesPart (i : Installer) : Lines := do
  line ""
  title "Pages"
  Trace.each (fun (n, p) => pagePart n p) (numbered i.pages)

/-- The number of entries. -/
def entriesPart (i : Installer) : Lines := do
  line ""
  title "Entries"
  properties 0 [("size", .number i.entries.length)]

/-- One section. -/
def sectionPart (i : Installer) (n : Nat) (s : Section) : Lines := do
  let name ← Trace.ofExcept (i.textAt s.namePtr.toNat)
  title (itemName "Section" n ++ " - " ++ name) 1
  line? (reference i "name_ptr" s.namePtr.toNat 1)
  properties 1 [("install_types", .word s.installTypes)]
  line (flagged "flags" s.flags.toNat Flag.sections 1)
  properties 1 [
    ("code", .word s.code), ("code_size", .word s.codeSize), ("size_kb", .word s.sizeKb)]
  let stored ← Trace.ofExcept (Strings.textAt s.name 0)
  properties 1 [("name", .text stored)]

/-- All sections. -/
def sectionsPart (i : Installer) : Lines := do
  line ""
  title "Sections"
  Trace.each (fun (n, s) => sectionPart i n s) (numbered i.sections)

/-- The whole report. -/
def dump (path : String) (i : Installer) : Lines := do
  introduction path i
  firstHeaderPart i.image.first
  headerPart i
  stringsPart i
  pagesPart i
  entriesPart i
  sectionsPart i

/-- What a run of the tool leaves behind. -/
structure Output where
  /-- The lines that were printed. -/
  lines : List String := []
  /-- What was printed behind the last line and not ended. -/
  unfinished : String := ""
  /-- What was written to the channel for errors. -/
  errors : String := ""
  exitCode : Nat := 0
  /-- The fault that ended the run. -/
  fault : Option Fault := none
  deriving DecidableEq, Repr

namespace Output

/-- The printed text. -/
def text (o : Output) : String :=
  String.join (o.lines.map (· ++ "\n")) ++ o.unfinished

/-- The output of lines that are printed until a fault. -/
def ofLines (t : Lines) : Output where
  lines := t.events
  fault :=
    match t.result with
    | .ok _ => none
    | .error e => some e

/-- The output for a file that is no installer. -/
def notInstaller : Output where
  errors := "Error: Target it not an NSIS installer.\n"
  exitCode := 1

end Output

/-- The report on a file. -/
def run (path : String) (f : File) : Output :=
  match Installer.read f with
  | .ok i => .ofLines (dump path i)
  | .error .headerNotFound => .notInstaller
  | .error e => { fault := some e }

/-- The tool with its arguments: the first one is the path, the others are ignored. -/
def command (args : List String) (f : File) : Output :=
  match args with
  | [] => { fault := some .itemRange }
  | path :: _ => run path f

end Nsis.Report
