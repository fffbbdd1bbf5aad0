import Nsis.Bits

/-!
# Names of flags

The flags of headers, sections and pages, the kinds of pages, and the other numbers that have a name
and can be asked for like flags.

## Main definitions

* `Nsis.Flag` — the name of some bits.
* `Nsis.Flag.firstHeader`, `Nsis.Flag.header`, `Nsis.Flag.sections`, `Nsis.Flag.pages` — the flags.
* `Nsis.Flag.isSet` — whether a number has a flag.
* `Nsis.pageKinds` — the names of the kinds of pages.
* `Nsis.blockNames` — the names of the blocks.
-/

namespace Nsis

/-- The name of some bits of a number, of a single one as a rule. -/
structure Flag where
  name : String
  mask : Int
  deriving DecidableEq, Repr

namespace Flag

/-- Flags that take the bits from the lowest one on. -/
def fromNames (names : List String) : List Flag :=
  names.mapIdx fun i name => ⟨name, Bits.weight i⟩

/-- Names of the numbers from zero on. -/
def numbers (names : List String) : List Flag :=
  names.mapIdx fun i name => ⟨name, i⟩

/-- The flags of the first header. -/
def firstHeader : List Flag := fromNames [
  "FH_FLAGS_UNINSTALL", "FH_FLAGS_SILENT", "FH_FLAGS_NO_CRC", "FH_FLAGS_FORCE_CRC"]

/-- The flags of the header. -/
def header : List Flag := fromNames [
  "CH_FLAGS_DETAILS_SHOWDETAILS", "CH_FLAGS_DETAILS_NEVERSHOW", "CH_FLAGS_PROGRESS_COLORED",
  "CH_FLAGS_SILENT", "CH_FLAGS_SILENT_LOG", "CH_FLAGS_AUTO_CLOSE", "CH_FLAGS_DIR_NO_SHOW",
  "CH_FLAGS_NO_ROOT_DIR", "CH_FLAGS_COMP_ONLY_ON_CUSTOM", "CH_FLAGS_NO_CUSTOM"]

/-- The flags of a section. -/
def sections : List Flag := fromNames [
  "SF_SELECTED", "SF_SECGRP", "SF_SECGRPEND", "SF_BOLD", "SF_RO", "SF_EXPAND", "SF_PSELECTED",
  "SF_TOGGLED", "SF_NAMECHG"]

/-- The flags of a page. -/
def pages : List Flag := fromNames [
  "PF_LICENSE_SELECTED", "PF_NEXT_ENABLE", "PF_CANCEL_ENABLE", "PF_BACK_SHOW",
  "PF_LICENSE_STREAM", "PF_LICENSE_FORCE_SELECTION", "PF_LICENSE_NO_FORCE_SELECTION",
  "PF_NO_NEXT_FOCUS", "PF_BACK_ENABLE", "PF_PAGE_EX", "PF_DIR_NO_BTN_DISABLE"]

/-- The flags of colours. -/
def colours : List Flag := fromNames ["CC_TEXT", "CC_TEXT_SYS", "CC_BK", "CC_BK_SYS", "CC_BKB"]

/-- The flags of the deletion of files. -/
def deletions : List Flag := fromNames ["DEL_DIR", "DEL_RECURSE", "DEL_REBOOT", "DEL_SIMPLE"]

/-- Whether a number, in two's complement, has a bit in common with a flag. -/
def isSet (f : Flag) (n : Int) : Bool :=
  Bits.both n f.mask ≠ 0

end Flag

/-- The names of the kinds of pages. -/
def pageKinds : List String := [
  "PWP_LICENSE", "PWP_SELCOM", "PWP_DIR", "PWP_INSTFILES", "PWP_UNINST", "PWP_COMPLETED",
  "PWP_CUSTOM"]

namespace Flag

/-- The numbers of blocks. -/
def blocks : List Flag := numbers [
  "NB_PAGES", "NB_SECTIONS", "NB_ENTRIES", "NB_STRINGS", "NB_LANGTABLES", "NB_CTLCOLORS",
  "NB_BGFONT", "NB_DATA"]

/-- The numbers of the functions that the installer calls. -/
def callbacks : List Flag := numbers [
  "CB_ONINIT", "CB_ONINSTSUCCESS", "CB_ONINSTFAILED", "CB_ONUSERABORT", "CB_ONGUIINIT",
  "CB_ONGUIEND", "CB_ONMOUSEOVERSECTION", "CB_ONVERIFYINSTDIR", "CB_ONSELCHANGE",
  "CB_ONREBOOTFAILED"]

/-- Sizes and the numbers of the methods of packing. -/
def others : List Flag := [
  ⟨"D_LZMA", 1⟩, ⟨"D_BZIP2", 2⟩, ⟨"D_ZLIB", 3⟩, ⟨"NSIS_MAX_STRLEN", 1024⟩,
  ⟨"NSIS_MAX_INST_TYPES", 32⟩, ⟨"MAX_ENTRY_OFFSETS", 6⟩, ⟨"BLOCKS_COUNT", 8⟩]

/-- Everything that can be asked for by its name. -/
def all : List Flag :=
  firstHeader ++ ⟨"FH_SIG", 0xdeadbeef⟩ :: header ++ blocks ++ callbacks ++ sections
    ++ numbers pageKinds ++ pages ++ colours ++ deletions ++ others

end Flag

/-- The names of the blocks. -/
def blockNames : List String := [
  "Pages", "Sections", "Entries", "Strings", "Langtables", "CtlColors", "BgFont", "Data"]

end Nsis
