import Nsis.Image.FirstHeader
import Nsis.Image.Packing
import Nsis.Image.Record
import Nsis.Signed

/-!
# The header

The unpacked header begins with 300 bytes of settings, among them where its eight blocks begin and
how many records each holds.

## Main definitions

* `Nsis.BlockHeader` — where a block begins, and the number of its records.
* `Nsis.Header` — the settings.
* `Nsis.Image` — an installer's first header, header and unpacked data.
* `Nsis.Image.extract` — reading the header behind a first header.
* `Nsis.Image.blockFrom` — the data from the start of a block on.
-/

namespace Nsis

/-- Where a block begins, and the number of its records. -/
structure BlockHeader where
  offset : UInt32
  num : UInt32
  deriving DecidableEq, Repr

/-! ### The numbers of the blocks -/

namespace BlockId

/-- The pages. -/
def pages : Nat := 0
/-- The sections. -/
def sections : Nat := 1
/-- The entries of the script. -/
def entries : Nat := 2
/-- The strings. -/
def strings : Nat := 3
/-- The data to be installed, which are not part of the header. -/
def data : Nat := 7

end BlockId

/-- The settings of an installer. -/
structure Header where
  flags : UInt32
  blocks : List BlockHeader
  regRootKey : UInt32
  regKeyPtr : UInt32
  regValuePtr : UInt32
  bgColor1 : UInt32
  bgColor2 : UInt32
  bgTextColor : UInt32
  lbBg : UInt32
  lbFg : UInt32
  langTableSize : UInt32
  licenseBg : UInt32
  onInit : Int32
  onInstSuccess : Int32
  onInstFailed : Int32
  onUserAbort : Int32
  onGuiInit : Int32
  onGuiEnd : Int32
  onMouseOverSection : Int32
  onVerifyInstDir : Int32
  onSelChange : Int32
  onRebootFailed : Int32
  installTypes : List Int32
  installDirPtr : UInt32
  installDirAppend : UInt32
  uninstChild : Int32
  uninstCmd : Int32
  winInit : Int32
  deriving DecidableEq, Repr

namespace Header

/-- The size of the settings. -/
def size : Nat := 300

/-- How many blocks there are. -/
def blockCount : Nat := 8

/-- How many install types there are: 32 and the custom one. -/
def installTypeCount : Nat := 33

/-- The settings that a record holds. -/
def ofBytes (b : Bytes) : Header where
  flags := b.word 0
  blocks := (List.range blockCount).map fun i => ⟨b.word (4 + 8 * i), b.word (8 + 8 * i)⟩
  regRootKey := b.word 68
  regKeyPtr := b.word 72
  regValuePtr := b.word 76
  bgColor1 := b.word 80
  bgColor2 := b.word 84
  bgTextColor := b.word 88
  lbBg := b.word 92
  lbFg := b.word 96
  langTableSize := b.word 100
  licenseBg := b.word 104
  onInit := b.int 108
  onInstSuccess := b.int 112
  onInstFailed := b.int 116
  onUserAbort := b.int 120
  onGuiInit := b.int 124
  onGuiEnd := b.int 128
  onMouseOverSection := b.int 132
  onVerifyInstDir := b.int 136
  onSelChange := b.int 140
  onRebootFailed := b.int 144
  installTypes := ints b 148 installTypeCount
  installDirPtr := b.word 280
  installDirAppend := b.word 284
  uninstChild := b.int 288
  uninstCmd := b.int 292
  winInit := b.int 296

/-- Read the settings from the start of unpacked data. -/
def parse (data : Bytes) : Except Fault Header :=
  if data.length < size then .error (.shortRecord size data.length)
  else .ok (ofBytes (data.take size))

/-- The callbacks of the installer: the name of the event, and the entry that is called. -/
def callbacks (h : Header) : List (String × Int32) := [
  ("Init", h.onInit), ("InstSuccess", h.onInstSuccess), ("InstFailed", h.onInstFailed),
  ("UserAbort", h.onUserAbort), ("GUIInit", h.onGuiInit), ("GUIEnd", h.onGuiEnd),
  ("MouseOverSection", h.onMouseOverSection), ("VerifyInstDir", h.onVerifyInstDir),
  ("SelChange", h.onSelChange), ("RebootFailed", h.onRebootFailed)]

end Header

/-- An installer's first header, header and unpacked data. -/
structure Image where
  first : FirstHeader
  header : Header
  packing : Packing
  /-- The unpacked header with its blocks. -/
  raw : Bytes
  /-- The announced size of the packed header, or in a solid installer of the unpacked one. -/
  rawSize : Nat
  deriving Repr

namespace Image

/-- Unpack and read the header behind a first header. -/
def extract (f : File) (first : FirstHeader) : Except Fault Image := do
  let u ← Unpacked.ofFile f first.dataOffset
  let header ← Header.parse u.data
  return ⟨first, header, u.packing, u.data, u.size⟩

/-- The header of block `n`. -/
def blockHeader (i : Image) (n : Int) : Except Fault BlockHeader :=
  Signed.item i.header.blocks n

/-- The data from the start of block `n` on. The block of data to be installed is read from the
file, as far behind the first header as the announced size. -/
def blockFrom (i : Image) (f : File) (n : Int) : Except Fault Bytes :=
  if n = BlockId.data then do
    let f ← f.seek (i.first.dataOffset + i.rawSize : Nat)
    return f.rest
  else do
    let b ← i.blockHeader n
    return i.raw.drop b.offset.toNat

end Image

end Nsis
