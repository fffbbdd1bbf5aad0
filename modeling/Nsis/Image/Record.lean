import Nsis.Bytes
import Nsis.Fault

/-!
# Records

Blocks of the header hold records of fixed size: sections, entries of the script, and pages.

## Main definitions

* `Nsis.records` — the records at the start of a block.
* `Nsis.Section`, `Nsis.Entry`, `Nsis.Page` — the kinds of records.
* `Nsis.Section.parse`, `Nsis.Entry.parse`, `Nsis.Page.parse` — reading them from a block.
-/

namespace Nsis

/-- Read `n` records of `size` bytes from the start of a block. -/
def records {α : Type} (size : Nat) (ofBytes : Bytes → α) :
    (n : Nat) → (block : Bytes) → Except Fault (List α)
  | 0, _ => .ok []
  | n + 1, block =>
    let record := block.take size
    if record.length < size then .error (.shortRecord size block.length)
    else
      match records size ofBytes n (block.drop size) with
      | .ok rs => .ok (ofBytes record :: rs)
      | .error e => .error e

/-- The `n` signed words from offset `i` on. -/
def ints (b : Bytes) (i n : Nat) : List Int32 :=
  (List.range n).map fun k => b.int (i + 4 * k)

/-- A section that can be installed. -/
structure Section where
  namePtr : UInt32
  installTypes : UInt32
  flags : UInt32
  /-- The first entry of its code. -/
  code : UInt32
  codeSize : UInt32
  sizeKb : UInt32
  /-- The name as it is stored, of fixed size. -/
  name : Bytes
  deriving DecidableEq, Repr

namespace Section

/-- The size of the stored name; a character takes two bytes in a Unicode installer. -/
def nameSize (unicode : Bool) : Nat :=
  if unicode then 2048 else 1024

/-- The section that a record holds. -/
def ofBytes (b : Bytes) : Section where
  namePtr := b.word 0
  installTypes := b.word 4
  flags := b.word 8
  code := b.word 12
  codeSize := b.word 16
  sizeKb := b.word 20
  name := b.drop 24

/-- Read `n` sections. -/
def parse (block : Bytes) (n : Int) (unicode : Bool) : Except Fault (List Section) :=
  records (24 + nameSize unicode) ofBytes n.toNat block

end Section

/-- An entry of the installer's script. -/
structure Entry where
  which : UInt32
  /-- The parameters, whose meaning depends on `which`. -/
  offsets : List Int32
  deriving DecidableEq, Repr

namespace Entry

/-- The size of an entry. -/
def size : Nat := 28

/-- Where the entry with a given number stands, counted from the first one. -/
def offsetOf (n : Int) : Int := n * size

/-- The entry that a record holds. -/
def ofBytes (b : Bytes) : Entry where
  which := b.word 0
  offsets := ints b 4 6

/-- Read `n` entries. -/
def parse (block : Bytes) (n : Int) : Except Fault (List Entry) :=
  records size ofBytes n.toNat block

end Entry

/-- A page of the installer's dialog. -/
structure Page where
  dialog : UInt32
  windowProc : UInt32
  /-- The entry called before the page is created. -/
  preFunc : Int32
  /-- The entry called before the page is shown. -/
  showFunc : Int32
  /-- The entry called when the page is left. -/
  leaveFunc : Int32
  flags : Int32
  caption : Int32
  back : Int32
  next : Int32
  clickNext : Int32
  cancel : Int32
  /-- The parameters, the last one stored first. -/
  params : List Int32
  deriving DecidableEq, Repr

namespace Page

/-- The size of a page. -/
def size : Nat := 64

/-- The page that a record holds. -/
def ofBytes (b : Bytes) : Page where
  dialog := b.word 0
  windowProc := b.word 4
  preFunc := b.int 8
  showFunc := b.int 12
  leaveFunc := b.int 16
  flags := b.int 20
  caption := b.int 24
  back := b.int 28
  next := b.int 32
  clickNext := b.int 36
  cancel := b.int 40
  params := (ints b 44 5).reverse

/-- Read `n` pages. -/
def parse (block : Bytes) (n : Int) : Except Fault (List Page) :=
  records size ofBytes n.toNat block

end Page

end Nsis
