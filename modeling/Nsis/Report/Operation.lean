import Nsis.Formula.Value
import Nsis.Image.FirstHeader
import Nsis.Image.Packing

/-!
# Operations in formulas

The formulas of flags can call the operations that find and unpack the header of an installer and
read its records. There the operations take data of any kind: what they need of their arguments they
ask for as a formula would, and what they know of the format they look up by its name.

## Main definitions

* `Nsis.Report.findHeader` — the first header of a file.
* `Nsis.Report.unpackHeader`, `Nsis.Report.extractHeader` — the header behind it.
* `Nsis.Report.sectionRecords`, `Nsis.Report.entryRecords`, `Nsis.Report.pageRecords` — the records
  of a block.
* `Nsis.Report.operate` — the value of an operation by its name.
-/

namespace Nsis.Report

open Evaluation

variable (e : Evaluator)

/-! ### Requests -/

/-- What the format knows by a name. -/
def known (name : String) : Evaluation Datum :=
  Evaluator.named {} name

/-- The value of a function that data have. -/
def send (d : Datum) (name : String) (args : List Datum) : Evaluation Datum := do
  e.call (← e.partOf d name) { plain := args }

/-- The value of an operation of the format. -/
def ask (name : String) (args : List Datum) : Evaluation Datum := do
  e.call (← known name) { plain := args }

/-- The item of data at a position. -/
def itemAt (d : Datum) (n : Nat) : Evaluation Datum :=
  e.itemOf d (.number n)

/-- Data from a position on. -/
def itemsFrom (d : Datum) (n : Int) : Evaluation Datum :=
  e.itemOf d (.slice (.number n) .absent .absent)

/-- A record of a type from the start of data with a layout. -/
def recordFrom (type layout : String) (d : Datum) : Evaluation Datum := do
  let make ← e.partOf (← known type) "_make"
  e.call make { plain := [← send e (← known layout) "unpack_from" [d]] }

/-- The number at the start of data in a format. -/
def leadingNumber (format : String) (d : Datum) : Evaluation Datum := do
  itemAt e (← send e (← known "struct") "unpack_from" [.text format, d]) 0

/-- The signed words of data. -/
def wordsOf (d : Datum) : Evaluation (List Datum) := do
  let n ← e.sizeOf d
  (List.range ((n + 3) / 4)).mapM fun (i : Nat) => do
    leadingNumber e "<i" (← itemsFrom e d (4 * i))

/-! ### Recognition -/

/-- Whether data begin like an LZMA stream. -/
def hasLzmaHead (d : Datum) : Evaluation Datum := do
  let head ← e.itemOf d (.slice (.number 0) (.number 3) .absent)
  let isHead ← e.related .equal head (.bytes [0x5d, 0, 0])
  if !(← e.holds isHead) then return isHead
  let isZero ← e.related .equal (← itemAt e d 5) (.number 0)
  if !(← e.holds isZero) then return isZero
  e.related .equal (← e.combined .bitwiseAnd (← itemAt e d 6) (.number 0x80)) (.number 0)

/-- Whether data look like an LZMA stream, possibly behind a byte that says whether a filter was
used. -/
def showsLzma (d : Datum) : Evaluation Datum := do
  let isHead ← hasLzmaHead e d
  if ← e.holds isHead then return isHead
  let isFilter ← e.related .lessEqual (← itemAt e d 0) (.number 1)
  if !(← e.holds isFilter) then return isFilter
  hasLzmaHead e (← itemsFrom e d 1)

/-- Whether data look like a block-sorted stream. -/
def showsBzip2 (d : Datum) : Evaluation Datum := do
  let isMark ← e.related .equal (← itemAt e d 0) (.number 0x31)
  if !(← e.holds isMark) then return isMark
  e.related .less (← itemAt e d 1) (.number 0xe)

/-! ### Unpacking -/

/-- The bytes that data are. -/
def bytesFrom (d : Datum) : Evaluation Bytes := do
  let o ← opened d
  match o.bytes? with
  | some b => return b
  | none => throw (.misuse (.notBytesLike o.kind))

/-- Deflated data of a size from a file. -/
def inflateFrom (file size : Datum) : Evaluation Datum := do
  let data ← send e file "read" [size]
  let tool ← known "zlib"
  let window ← e.signed .negative (← e.partOf tool "MAX_WBITS")
  send e tool "decompress" [data, window]

/-- Block-sorted data of a size from a file. -/
def unsortFrom (file size : Datum) : Evaluation Datum := do
  return .bytes (Bzip2.decompress (← bytesFrom (← send e file "read" [size])))

/-- The rest of a file as LZMA data. -/
def lzmaFrom (file : Datum) : Evaluation Datum := do
  let data ← send e file "read" []
  let _ ← bytesFrom (← e.itemOf data (.slice (.number 0) (.number 5) .absent))
  return .bytes (← Lzma.decompress (← bytesFrom data))

/-- The operation and the number that belong to a method of packing, by their names. -/
def methodNames : Method → String × String
  | .lzma => ("_lzma", "D_LZMA")
  | .bzip2 => ("_bzip2", "D_BZIP2")
  | .deflate => ("_zlib", "D_ZLIB")

/-- The method that data show when LZMA is out of the question. -/
def methodOf (d : Datum) : Evaluation Method := do
  if ← e.holds (← ask e "_is_bzip2" [d]) then return .bzip2 else return .deflate

/-- How data are packed that begin with a chunk. -/
def packingOf (chunk : Datum) : Evaluation Packing := do
  if ← e.holds (← ask e "_is_lzma" [chunk]) then return ⟨.lzma, true⟩
  if ← e.areEqual (← itemAt e chunk 3) (.number 0x80) then
    let rest ← itemsFrom e chunk 4
    if ← e.holds (← ask e "_is_lzma" [rest]) then return ⟨.lzma, false⟩
    return ⟨← methodOf e rest, false⟩
  return ⟨← methodOf e chunk, true⟩

/-- The unpacked header at an offset of a file, its size, the number of its method, and whether it
is solid. -/
def unpackHeader (file offset : Datum) : Evaluation Datum := do
  let _ ← send e file "seek" [offset]
  let chunk ← e.call (.type "bytes") { plain := [← send e file "read" [.number chunkSize]] }
  let size ← leadingNumber e "<I" chunk
  let packing ← packingOf e chunk
  let (operation, number) := methodNames packing.method
  let number ← known number
  if packing.solid then
    let _ ← send e file "seek" [offset]
    let data ← ask e operation [file, size]
    let size ← leadingNumber e "<I" data
    let stop ← e.combined .plus size (.number 4)
    let data ← e.itemOf data (.slice (.number 4) stop .absent)
    return .tuple [data, size, number, .truth true]
  else
    let _ ← send e file "seek" [← e.combined .plus offset (.number 4)]
    let size ← e.combined .bitwiseAnd size (.number 0x7fffffff)
    let data ← ask e operation [file, size]
    return .tuple [data, size, number, .truth false]

/-! ### Headers -/

/-- The first header of a file from a position on, which is looked for in steps. -/
def findHeader (file : Datum) : (fuel : Nat) → (position : Datum) → Evaluation Datum
  | 0, _ => throw .noMemory
  | fuel + 1, position => do
    let chunk ← send e file "read" [.number FirstHeader.alignment]
    let given : Datum := .number (← e.sizeOf chunk)
    let size ← e.partOf (← known "_firstheader_pack") "size"
    if ← e.comesBefore .less given size then return .absent
    let first ← recordFrom e "FirstHeader" "_firstheader_pack" chunk
    e.setPart first "header_offset" position
    e.setPart first "data_offset" (← e.combined .plus position size)
    if ← e.areEqual (← e.partOf first "siginfo") (← known "FH_SIG") then
      if ← e.areEqual (← e.partOf first "magics") (← known "FH_MAGICS") then return first
    findHeader file fuel (← e.combined .plus position given)

/-- The header behind a first header of a file. The first header keeps it. -/
def extractHeader (file first : Datum) : Evaluation Datum := do
  let found ← ask e "inflate_header" [file, ← e.partOf first "data_offset"]
  let [data, size, decoder, solid] ← e.items found
    | throw (.misuse (.tooMany 4))
  let header ← recordFrom e "Header" "_header_pack" data
  e.setPart header "solid" solid
  e.setPart header "decoder" decoder
  e.setPart first "header" header
  e.setPart first "_raw_header" (← e.call (.type "bytes") { plain := [data] })
  e.setPart first "_raw_header_c_size" size
  let width ← e.partOf (← known "_blockheader_pack") "size"
  let numbers ← e.call (.type "range") { plain := [← known "BLOCKS_COUNT"] }
  let blocks ← e.walk numbers ([] : List Datum) fun blocks i => do
    let start ← e.combined .times i width
    let rest ← e.itemOf (← e.partOf header "raw_blocks") (.slice start .absent .absent)
    return .yield ((← recordFrom e "BlockHeader" "_blockheader_pack" rest) :: blocks)
  e.setPart header "blocks" (← allocated (.list blocks.reverse))
  let types ← wordsOf e (← e.partOf header "raw_install_types")
  e.setPart header "install_types" (← allocated (.list types))
  return header

/-- A block of a file with a first header that has its header. -/
def extractBlock (file first number : Datum) : Evaluation Datum := do
  let header ← e.partOf first "header"
  if ← e.areEqual number (← known "NB_DATA") then
    let offset ← e.partOf first "data_offset"
    let size ← e.partOf first "_raw_header_c_size"
    let _ ← send e file "seek" [← e.combined .plus offset size]
    send e file "read" []
  else
    let raw ← e.partOf first "_raw_header"
    let block ← e.itemOf (← e.partOf header "blocks") number
    e.itemOf raw (.slice (← e.partOf block "offset") .absent .absent)

/-! ### Records -/

/-- A number of records of a type that stand one after the other in a block. Something more may be
done with each. -/
def recordsOf (type layout : String) (block count : Datum)
    (finish : Datum → Evaluation Unit) : Evaluation Datum := do
  let width ← e.partOf (← known layout) "size"
  let numbers ← e.call (.type "range") { plain := [count] }
  let found ← e.walk numbers ([] : List Datum) fun records i => do
    let start ← e.combined .times i width
    let r ← recordFrom e type layout (← e.itemOf block (.slice start .absent .absent))
    finish r
    return .yield (r :: records)
  allocated (.list found.reverse)

/-- The sections of a block. -/
def sectionRecords (block count unicode : Datum) : Evaluation Datum := do
  let layout := if ← e.holds unicode then "_section_pack_unicode" else "_section_pack"
  recordsOf e "Section" layout block count fun _ => return

/-- The entries of a block with their words. -/
def entryRecords (block count : Datum) : Evaluation Datum :=
  recordsOf e "Entry" "_entry_pack" block count fun r => do
    let words ← wordsOf e (← e.partOf r "raw_offsets")
    e.setPart r "offsets" (← allocated (.list words))

/-- The pages of a block with their words, the last one first. -/
def pageRecords (block count : Datum) : Evaluation Datum :=
  recordsOf e "Page" "_page_pack" block count fun r => do
    let words ← wordsOf e (← e.partOf r "raw_params")
    e.setPart r "params" (← allocated (.list words.reverse))

/-! ### Names -/

/-- The value of an operation whose parameters have values. -/
def operate (name : String) (bound : Names) : Evaluation Datum := do
  let argument := fun (s : String) => (bound.lookup s).getD .absent
  match name with
  | "_find_firstheader" =>
    findHeader e (argument "nsis_file") Evaluator.walkRoom (.number 0)
  | "_is_lzma" => showsLzma e (argument "data")
  | "_is_bzip2" => showsBzip2 e (argument "data")
  | "_zlib" => inflateFrom e (argument "f") (argument "size")
  | "_bzip2" => unsortFrom e (argument "f") (argument "size")
  | "_lzma" => lzmaFrom e (argument "f")
  | "inflate_header" => unpackHeader e (argument "nsis_file") (argument "data_offset")
  | "_extract_header" => extractHeader e (argument "nsis_file") (argument "firstheader")
  | "_extract_block" =>
    extractBlock e (argument "nsis_file") (argument "firstheader") (argument "block_id")
  | "_parse_sections" => sectionRecords e (argument "block") (argument "n") (argument "unicode")
  | "_parse_entries" => entryRecords e (argument "block") (argument "n")
  | "_parse_pages" => pageRecords e (argument "block") (argument "n")
  | "namedtuple" => e.newEntryType (← Evaluator.placeName).plain bound
  | _ => return .absent

end Nsis.Report
