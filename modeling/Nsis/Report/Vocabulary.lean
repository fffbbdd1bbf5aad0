import Nsis.Report.Flags
import Nsis.Report.Operation

/-!
# The names of formulas

Flags can be asked for by formulas. The names in them are those of the flags and of the other
numbers of the format, of the operations and records that read an installer, and of the functions
and types that every formula knows.

## Main definitions

* `Nsis.Report.formatNames` — the names of the format with what they stand for.
* `Nsis.Report.commonNames` — the names that every formula knows with what they stand for.
* `Nsis.Report.vocabulary` — what formulas know besides.
* `Nsis.Report.initialMemory` — what formulas begin with.
-/

namespace Nsis.Report

/-! ### Common names -/

/-- The functions that every formula knows. -/
def functionNames : List String := [
  "__build_class__", "__import__", "abs", "all", "any", "ascii", "bin", "breakpoint", "callable",
  "chr", "compile", "delattr", "dir", "divmod", "eval", "exec", "format", "getattr", "globals",
  "hasattr", "hash", "hex", "id", "input", "isinstance", "issubclass", "iter", "aiter", "len",
  "locals", "max", "min", "next", "anext", "oct", "ord", "pow", "print", "repr", "round",
  "setattr", "sorted", "sum", "vars"]

/-- The types of data that every formula knows. -/
def typeNames : List String := [
  "bool", "memoryview", "bytearray", "bytes", "classmethod", "complex", "dict", "enumerate",
  "filter", "float", "frozenset", "property", "int", "list", "map", "object", "range", "reversed",
  "set", "slice", "staticmethod", "str", "super", "tuple", "type", "zip"]

/-- The types of faults that every formula knows. -/
def faultNames : List String := [
  "BaseException", "BaseExceptionGroup", "Exception", "GeneratorExit", "KeyboardInterrupt",
  "SystemExit", "ArithmeticError", "AssertionError", "AttributeError", "BufferError", "EOFError",
  "ImportError", "LookupError", "MemoryError", "NameError", "OSError", "ReferenceError",
  "RuntimeError", "StopAsyncIteration", "StopIteration", "SyntaxError", "SystemError",
  "TypeError", "ValueError", "Warning", "FloatingPointError", "OverflowError",
  "ZeroDivisionError", "BytesWarning", "DeprecationWarning", "EncodingWarning", "FutureWarning",
  "ImportWarning", "PendingDeprecationWarning", "ResourceWarning", "RuntimeWarning",
  "SyntaxWarning", "UnicodeWarning", "UserWarning", "BlockingIOError", "ChildProcessError",
  "ConnectionError", "FileExistsError", "FileNotFoundError", "InterruptedError",
  "IsADirectoryError", "NotADirectoryError", "PermissionError", "ProcessLookupError",
  "TimeoutError", "IndentationError", "IndexError", "KeyError", "ModuleNotFoundError",
  "NotImplementedError", "RecursionError", "UnboundLocalError", "UnicodeError",
  "BrokenPipeError", "ConnectionAbortedError", "ConnectionRefusedError", "ConnectionResetError",
  "TabError", "UnicodeDecodeError", "UnicodeEncodeError", "UnicodeTranslateError",
  "ExceptionGroup"]

/-- Constants that every formula knows. -/
def constants : Names := [
  ("None", .absent), ("Ellipsis", .thing "ellipsis" "Ellipsis" []),
  ("NotImplemented", Datum.notImplemented), ("False", .truth false), ("True", .truth true)]

/-- The names that every formula knows with what they stand for. -/
def commonNames : Names :=
  [("__name__", .text "builtins"), ("__doc__", .text ""), ("__package__", .text ""),
    ("__loader__", .thing "type" "BuiltinImporter" []), ("__spec__", .thing "ModuleSpec" "" [])]
  ++ functionNames.map (fun s => (s, .builtin s))
  ++ constants
  ++ typeNames.map (fun s => (s, .type s))
  ++ [("__debug__", .truth true)]
  ++ faultNames.map (fun s => (s, .type s))
  ++ [("EnvironmentError", .type "OSError"), ("IOError", .type "OSError"),
    ("open", .builtin "open"), ("quit", .thing "Quitter" "quit" []),
    ("exit", .thing "Quitter" "exit" []), ("copyright", .thing "_Printer" "" []),
    ("credits", .thing "_Printer" "" []), ("license", .thing "_Printer" "" []),
    ("help", .thing "_Helper" "" [])]

/-! ### Modules -/

/-- The functions for packed numbers. -/
def packing : Datum :=
  .thing "module" "struct" (Datum.packingNames.map (fun s => (s, .builtin s))
    ++ [("Struct", .type "_struct.Struct"), ("error", .type "struct.error")])

/-- The settings for deflated data. -/
def deflateSettings : List (String × Int) := [
  ("DEFLATED", 8), ("DEF_BUF_SIZE", 16384), ("DEF_MEM_LEVEL", 8), ("MAX_WBITS", 15),
  ("Z_BEST_COMPRESSION", 9), ("Z_BEST_SPEED", 1), ("Z_BLOCK", 5), ("Z_DEFAULT_COMPRESSION", -1),
  ("Z_DEFAULT_STRATEGY", 0), ("Z_FILTERED", 1), ("Z_FINISH", 4), ("Z_FIXED", 4),
  ("Z_FULL_FLUSH", 3), ("Z_HUFFMAN_ONLY", 2), ("Z_NO_COMPRESSION", 0), ("Z_NO_FLUSH", 0),
  ("Z_PARTIAL_FLUSH", 1), ("Z_RLE", 3), ("Z_SYNC_FLUSH", 2), ("Z_TREES", 6)]

/-- The functions and settings for deflated data. -/
def deflation : Datum :=
  .thing "module" "zlib" (Datum.deflationNames.map (fun s => (s, .builtin s))
    ++ deflateSettings.map (fun (s, n) => (s, .number n))
    ++ [("error", .type "zlib.error"), ("ZLIB_VERSION", .text ""),
      ("ZLIB_RUNTIME_VERSION", .text "")])

/-! ### Operations -/

/-- The name of the place where the names of the format are kept. -/
def place : String := "nrs.fileform"

/-- An operation as formulas see it. -/
structure Operation where
  name : String
  parameters : List String
  /-- What it gives values to on its way. -/
  locals : List String := []
  defaults : List Datum := []
  /-- Parameters that only take arguments with their name, with their defaults. -/
  labelled : Names := []

/-- What is known about the code of an operation. -/
def Operation.code (o : Operation) : Datum :=
  let names := o.parameters ++ o.labelled.map (·.1) ++ o.locals
  .thing "code" o.name [
    ("co_argcount", .number o.parameters.length), ("co_posonlyargcount", .number 0),
    ("co_kwonlyargcount", .number o.labelled.length), ("co_nlocals", .number names.length),
    ("co_varnames", .tuple (names.map .text)), ("co_name", .text o.name),
    ("co_qualname", .text o.name), ("co_flags", .number 3), ("co_freevars", .tuple [])]

/-- An operation as a thing that can be called. -/
def Operation.datum (o : Operation) : Datum :=
  let labelled := Datum.record (o.labelled.map fun (s, _) => .text s) (o.labelled.map (·.2))
  .thing "function" o.name [
    ("__module__", .text (if o.name = "namedtuple" then "collections" else place)),
    ("__defaults__", if o.defaults.isEmpty then .absent else .tuple o.defaults),
    ("__kwdefaults__", if o.labelled.isEmpty then .absent else labelled),
    ("__code__", o.code), ("__globals__", .shared 0), ("__closure__", .absent),
    ("__doc__", .absent), ("__dict__", .record [] []), ("__annotations__", .record [] [])]

/-- What makes types whose tuples have fields. -/
def typeMaker : Operation where
  name := "namedtuple"
  parameters := ["typename", "field_names"]
  labelled := [("rename", .truth false), ("defaults", .absent), ("module", .absent)]

/-- The operations that read an installer. -/
def operations : List Operation := [
  { name := "_find_firstheader"
    parameters := ["nsis_file"]
    locals := ["firstheader_offset", "pos", "chunk", "firstheader"] },
  { name := "_is_lzma", parameters := ["data"], locals := ["_is_lzma_header"] },
  { name := "_is_bzip2", parameters := ["data"] },
  { name := "_zlib", parameters := ["f", "size"], locals := ["data"] },
  { name := "_bzip2", parameters := ["f", "size"], locals := ["bzlib", "data"] },
  { name := "_lzma", parameters := ["f", "size"], locals := ["lzma", "data", "props"] },
  { name := "inflate_header"
    parameters := ["nsis_file", "data_offset"]
    locals := ["chunk", "data_size", "solid", "decoder", "deflated_data", "inflated_data"] },
  { name := "_extract_header"
    parameters := ["nsis_file", "firstheader"]
    locals := [
      "inflated_data", "data_size", "decoder", "solid", "block_headers", "i", "header_offset",
      "block_header"] },
  { name := "_extract_block"
    parameters := ["nsis_file", "firstheader", "block_id"]
    locals := ["header"] },
  { name := "_parse_sections"
    parameters := ["block", "n", "unicode"]
    defaults := [.truth false] },
  { name := "_parse_entries"
    parameters := ["block", "n"]
    locals := ["bsize", "entries", "i"] },
  { name := "_parse_pages"
    parameters := ["block", "n"]
    locals := ["bsize", "pages", "i"] }]

/-! ### Records -/

/-- A record of an installer as it is named in formulas. -/
structure RecordType where
  name : String
  fields : List String
  /-- What a record has before it is read, if it can have more than its fields. -/
  parts : Option Names := none

/-- The records of an installer. -/
def recordTypes : List RecordType := [
  { name := "FirstHeader"
    fields := ["flags", "siginfo", "magics", "u_size", "c_size"]
    parts := some [
      ("header_offset", .number 0), ("data_offset", .number 0), ("header", .absent)] },
  { name := "Header"
    fields := [
      "flags", "raw_blocks", "install_reg_rootkey", "install_reg_key_ptr", "install_reg_value_ptr",
      "bg_color1s", "bg_color2", "bg_textcolor", "lb_bg", "lb_fg", "langtable_size", "license_bg",
      "code_onInit", "code_onInstSuccess", "code_onInstFailed", "code_onUserAbort",
      "code_onGUIInit", "code_onGUIEnd", "code_onMouseOverSection", "code_onVerifyInstDir",
      "code_onSelChange", "code_onRebootFailed", "raw_install_types", "install_directory_ptr",
      "install_directory_auto_append", "str_uninstchild", "str_uninstcmd", "str_wininit"]
    parts := some [("blocks", .list []), ("install_types", .list [])] },
  { name := "BlockHeader", fields := ["offset", "num"] },
  { name := "Section"
    fields := ["name_ptr", "install_types", "flags", "code", "code_size", "size_kb", "name"] },
  { name := "Entry"
    fields := ["which", "raw_offsets"]
    parts := some [("offsets", .list [])] },
  { name := "Page"
    fields := [
      "dlg_id", "wndproc_id", "prefunc", "showfunc", "leavefunc", "flags", "caption", "back",
      "next", "clicknext", "cancel", "raw_params"]
    parts := some [("params", .list [])] },
  { name := "CtlColors32", fields := ["text", "bkc", "lbStyle", "bkb", "bkmode", "flags"] }]

/-- A record of an installer as a type. -/
def RecordType.datum (r : RecordType) : Datum :=
  let t := Datum.entryType place r.name r.fields []
  match r.parts with
  | some parts => Datum.entrySubtype t place parts
  | none => t

/-- The layouts of the records, with their formats and sizes. -/
def layouts : List (String × String × Nat) := [
  ("_firstheader_pack", "<II12sII", 28), ("_header_pack", "<I64s10I10i132sIIiii", 300),
  ("_blockheader_pack", "<II", 8), ("_section_pack_unicode", "<6I2048s", 2072),
  ("_section_pack", "<6I1024s", 1048), ("_entry_pack", "<I24s", 28), ("_page_pack", "<2I9i20s", 64),
  ("_ctlcolors32_pack", "<6I", 24)]

/-! ### Names of the format -/

/-- Names that tell where the names of the format are kept. -/
def placeNames : Names :=
  let path := "/" ++ String.ofList (place.toList.map fun c => if c = '.' then '/' else c)
  [("__name__", .text place), ("__doc__", .absent), ("__package__", .text (Datum.firstWords place)),
    ("__loader__", .thing "SourceFileLoader" "" []),
    ("__spec__", .thing "ModuleSpec" "" [("name", .text place)]),
    ("__file__", .text (path ++ ".py")), ("__cached__", .text (path ++ ".pyc"))]

/-- The names of the format with what they stand for, besides those that every formula knows. -/
def formatNames : Names :=
  [("bytes", .type "bytes"), ("struct", packing), ("zlib", deflation),
    (typeMaker.name, typeMaker.datum)]
  ++ Flag.all.flatMap (fun f =>
    let own := (f.name, Datum.number f.mask)
    if f.name = "FH_SIG" then [own, ("FH_MAGICS", .bytes FirstHeader.expectedMagic)] else [own])
  ++ recordTypes.map (fun r => (r.name, r.datum))
  ++ layouts.map (fun (s, format, size) => (s, Datum.Layout.datum format size))
  ++ operations.map fun o => (o.name, o.datum)

/-- What formulas can import. -/
def modules : List (String × Datum) := [
  ("struct", packing), ("zlib", deflation), ("builtins", .thing "module" "builtins" commonNames),
  ("collections", .thing "module" "collections" [(typeMaker.name, typeMaker.datum)]),
  ("io", .thing "module" "io" [("BytesIO", .type Datum.fileKind)])]

/-! ### Memory -/

/-- Keep data that a name stands for. Modules and types are told from others by their addresses, and
can change. -/
def kept (d : Datum) : Evaluation Datum := do
  match ← Evaluation.stored d with
  | .thing "type" name parts =>
    let id ← Evaluation.allocate (.data .absent)
    return .thing "type" name (parts ++ [(Datum.addressPart, .shared id)])
  | .thing "module" name parts => Evaluation.allocated (.thing "module" name parts)
  | d => return d

/-- Keep names at an address as a record. -/
def keepNames (address : Nat) (names : Names) : Evaluation Unit := do
  let values ← names.mapM fun (_, d) => kept d
  Evaluation.write address (.record (names.map fun (s, _) => .text s) values)

/-- The address of the modules that formulas can import. -/
def moduleAddress : Nat := 1

/-- Keep the names of the format at the first address, and the modules at the second one. -/
def remember : Evaluation Unit := do
  let world ← Evaluation.allocate (.data .absent)
  let imported ← Evaluation.allocate (.data .absent)
  let common ← Evaluation.allocate (.data .absent)
  keepNames imported modules
  keepNames common commonNames
  let known ← formatNames.mapM fun (s, d) => do
    return (s, (← Evaluation.entryAt? imported s).getD d)
  keepNames world (placeNames ++ [(Scope.commonNames, .shared common)] ++ known)

/-- The memory that a computation leaves if there is nothing in it at first. -/
def memoryAfter (x : Evaluation Unit) : Memory :=
  (x.run.run {}).2

/-- What formulas begin with: the names of the format, and those that every formula knows. -/
def initialMemory : Memory :=
  memoryAfter remember

/-- What the formulas of flags know besides the names in their memory. -/
def vocabulary : Vocabulary where
  operate e name bound := operate e name bound
  modules := moduleAddress

end Nsis.Report
