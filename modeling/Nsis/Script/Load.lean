import Nsis.Installer.Basic
import Nsis.Text.Name
import Nsis.Trace

/-!
# Loading installers

How an installer becomes a program: each block that is present becomes a segment, variables get a
segment of their own, and the code of sections, pages and callbacks gets entry points.

## Main definitions

* `Nsis.Script.LoadEvent` — what is told to the database.
* `Nsis.Script.alignUp` — the next page boundary.
* `Nsis.Script.load` — loading an installer.
* `Nsis.Script.loadFile` — loading an installer from a file.
* `Nsis.Script.accepts` — whether a file can be loaded.
-/

namespace Nsis.Script

/-- What is told to the database while an installer is loaded. -/
inductive LoadEvent where
  /-- A property of the installer is kept. -/
  | setting (key value : String)
  | addSegment (name kind : String) (start stop : Nat)
  | write (address : Nat) (content : Bytes)
  | makeName (address : Nat) (name : String)
  | entryPoint (address : Int) (name : String)
  /-- The processor that runs scripts is chosen. -/
  | chooseProcessor
  deriving DecidableEq, Repr

/-- A computation that tells the database what is loaded. -/
abbrev Loading := Trace LoadEvent Unit

/-- The segments of blocks: name, number of the block, and kind. -/
def blockSegments : List (String × Nat × String) := [
  ("PAGES", 0, "DATA"), ("SECTIONS", 1, "DATA"), ("ENTRIES", 2, "CODE"), ("STRINGS", 3, "DATA"),
  ("LANGTABLES", 4, "DATA"), ("CTLCOLORS", 5, "DATA"), ("BGFONT", 6, "DATA"), ("DATA", 7, "DATA")]

/-- The next boundary of pages of 4096 bytes, among addresses of 32 bits. -/
def alignUp (address : Int) : Int :=
  let a := (address + 0xfff) % 0x100000000
  a - a % 0x1000

/-- The number that stands for no code. -/
def noCode : Int := 0xffffffff

/-- Load a block, unless it is absent. -/
def loadBlock (i : Installer) (name : String) (n : Nat) (kind : String) : Loading := do
  let offset := i.image.blockOffset n
  if offset = 0 then return
  let content ← Trace.ofExcept (i.image.block n)
  Trace.emit (.addSegment name kind offset (offset + content.length))
  Trace.emit (.write offset content)

/-- Load all blocks that are present. -/
def loadBlocks (i : Installer) : Loading :=
  Trace.each (fun (name, n, kind) => loadBlock i name n kind) blockSegments

/-- The size of the segment of variables. -/
def varsSize : Nat := 0x1000

/-- Make the segment of variables behind the header, and name the variables of the system. -/
def loadVars (i : Installer) : Loading := do
  let start := (alignUp i.size).toNat
  Trace.emit (.addSegment "VARS" "BSS" start (start + varsSize))
  Trace.each (fun (n, _, v) => Trace.emit (.makeName (start + n + 20) ("$" ++ v)))
    (systemVariables.mapIdx fun n v => (n, v))

/-- Make an entry point at an entry of the script, unless there is none. -/
def loadEntryPoint (i : Installer) (code : Int) (name : String) : Loading := do
  if code ≠ noCode then
    Trace.emit (.entryPoint (i.image.blockOffset BlockId.entries + Entry.offsetOf code) name)

/-- Make an entry point for a section, named after it or, without a name, by its number. -/
def loadSection (i : Installer) (n : Nat) (s : Section) : Loading := do
  if (s.code.toNat : Int) = noCode then return
  let text ← Trace.ofExcept (i.textAt s.namePtr.toNat)
  let name := if text.isEmpty then "_section" ++ Text.decimal n else text
  loadEntryPoint i s.code.toNat (Text.name name)

/-- Make entry points for the handlers of a page. A handler is a signed number and so never the
number that stands for no code: one of −1 gets an entry point before the code. -/
def loadPage (i : Installer) (n : Nat) (p : Page) : Loading :=
  Trace.each (fun (name, code) =>
      loadEntryPoint i code ("_page_" ++ Text.decimal n ++ "_" ++ name))
    [("prefunc", p.preFunc.toInt), ("showfunc", p.showFunc.toInt),
      ("leavefunc", p.leaveFunc.toInt)]

/-- Load an installer. -/
def load (i : Installer) : Loading := do
  Trace.emit (.setting "VERSION_MAJOR" i.codes.version)
  Trace.emit (.setting "VERSION_MINOR" Installer.minorVersion)
  loadBlocks i
  loadVars i
  Trace.each (fun (n, s) => loadSection i n s) (i.sections.mapIdx fun n s => (n, s))
  Trace.each (fun (n, p) => loadPage i n p) (i.pages.mapIdx fun n p => (n, p))
  Trace.each (fun (name, code) => loadEntryPoint i code.toInt ("_on" ++ name))
    i.image.header.callbacks
  Trace.emit .chooseProcessor

/-- Load an installer from a file. -/
def loadFile (f : File) : Loading := do
  load (← Trace.ofExcept (Installer.read f))

/-- The name of the format. -/
def formatName : String := "NSIS (NullSoft Installer)"

/-- Whether a file can be loaded; the answer to the first question is the name of the format. The
file is searched from its start. -/
def accepts (f : File) (question : Int) : Option String :=
  if question = 0 && (FirstHeader.find { f with pos := 0 }).1.isSome then some formatName else none

end Nsis.Script
