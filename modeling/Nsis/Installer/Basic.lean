import Nsis.Installer.Blocks
import Nsis.Installer.Strings

/-!
# Installers

Reading an installer from a file: the first header is searched, the header behind it is unpacked,
and the records of its blocks are read.

## Main definitions

* `Nsis.Installer` — an installer that was read.
* `Nsis.Installer.read` — reading it from a file.
-/

namespace Nsis

/-- An installer. -/
structure Installer where
  image : Image
  /-- The block of strings. -/
  strings : Bytes
  /-- Whether characters take two bytes, seen from the two bytes of the first, empty string. -/
  unicode : Bool
  pages : List Page
  sections : List Section
  entries : List Entry
  /-- The coding that its strings suggest. -/
  codes : CodeSet
  deriving Repr

namespace Installer

/-- The minor version, which nothing in an installer tells. -/
def minorVersion : String := "?"

/-- Whether the strings begin with two zero bytes. -/
def startsWide (strings : Bytes) : Except Fault Bool := do
  let first ← byteAt strings 0
  let second ← byteAt strings 1
  return first = second && second = 0

/-- The installer in an image. -/
def ofImage (i : Image) : Except Fault Installer := do
  let strings ← i.block BlockId.strings
  let unicode ← startsWide strings
  let pages ← Page.parse (← i.block BlockId.pages) (i.blockNum BlockId.pages)
  let sections ← Section.parse (← i.block BlockId.sections) (i.blockNum BlockId.sections) unicode
  let entries ← Entry.parse (← i.block BlockId.entries) (i.blockNum BlockId.entries)
  return ⟨i, strings, unicode, pages, sections, entries, Strings.vote (Strings.raws strings)⟩

/-- Read an installer from a file. -/
def read (f : File) : Except Fault Installer := do
  let (found, f) := FirstHeader.find f
  match found with
  | some first => ofImage (← Image.extract f first)
  | none => .error .headerNotFound

/-- The size of the unpacked header. -/
def size (i : Installer) : Nat := i.image.raw.length

/-- The text of the string at an address. -/
def textAt (i : Installer) (address : Int) : Except Fault String :=
  Strings.textAt i.strings address

end Installer

end Nsis
