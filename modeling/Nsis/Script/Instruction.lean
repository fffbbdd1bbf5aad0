import Nsis.Bits
import Nsis.Script.Specialise

/-!
# Instructions

What the disassembler knows about each instruction: its name, the format of its parameters, which
operands it reads and changes, and where control goes after it.

## Main definitions

* `Nsis.Script.Instruction` — an instruction.
* `Nsis.Script.Instruction.table` — all instructions by their opcodes.
* `Nsis.Script.Feature` — the bits that describe an instruction.
* `Nsis.Script.Instruction.feature` — the description of an instruction as a number.
* `Nsis.Script.Instruction.ofOpcode` — the instruction with an opcode.
-/

namespace Nsis.Script

/-! ### The bits that describe an instruction -/

namespace Feature

/-- Control does not go on behind the instruction. -/
def stop : Nat := 0
/-- The instruction is a call. -/
def call : Nat := 1
/-- Operand `i` is changed. -/
def change (i : Nat) : Nat := i + 2
/-- Operand `i` is used. -/
def use (i : Nat) : Nat := i + 8
/-- The instruction jumps through an operand. -/
def jump : Nat := 14

end Feature

/-- An instruction. -/
structure Instruction where
  name : String
  /-- One letter for each parameter: `I` a number, `S` a string, `V` a variable, `J` an entry to
  jump to, `O` an operator, `2` a number times four. -/
  format : String := ""
  /-- The operands that are used, counted from zero. -/
  uses : List Nat := []
  /-- The operands that are changed. -/
  changes : List Nat := []
  /-- Whether control does not go on behind the instruction. -/
  stops : Bool := false
  /-- Whether the instruction is a call. -/
  calls : Bool := false
  /-- How the parameters tell special forms apart. -/
  special : Option Specialisation := none
  /-- Whether control goes on only if one of the jumps is missing. -/
  checksFlow : Bool := false
  deriving DecidableEq, Repr

namespace Instruction

/-- The instructions of installers. -/
def plain : List Instruction := [
  { name := "INVALID" },
  { name := "Return", stops := true },
  { name := "Jmp", format := "J", uses := [0], checksFlow := true },
  { name := "Abort", format := "I", uses := [0], stops := true },
  { name := "Quit", stops := true },
  { name := "Call", format := "J", uses := [0], calls := true },
  { name := "UpdateText", format := "S", uses := [0] },
  { name := "Sleep", format := "I", uses := [0] },
  { name := "BringToFront" },
  { name := "ChDetailsView", format := "SS", uses := [0, 1] },
  { name := "SetFileAttributes", format := "SI", uses := [0, 1] },
  { name := "CreateDir", format := "SI", uses := [0, 1] },
  { name := "IfFileExists", format := "SJJ", uses := [0, 1, 2], checksFlow := true },
  { name := "SetFlag", format := "IS", uses := [0, 1], special := some .setFlag },
  { name := "IfFlag", format := "JJII", uses := [0, 1, 2, 3], special := some .ifFlag,
    checksFlow := true },
  { name := "GetFlag", format := "VI", uses := [1], changes := [0] },
  { name := "Rename", format := "SSIS", uses := [1, 2, 3], changes := [0] },
  { name := "GetFullPathName", format := "SVI", uses := [0, 2], changes := [1] },
  { name := "SearchPath", format := "VS", uses := [1], changes := [0] },
  { name := "GetTempFilename", format := "VS", uses := [1], changes := [0] },
  { name := "ExtractFile", format := "ISIIII", uses := [0, 1, 2, 3, 4, 5] },
  { name := "DeleteFile", format := "SI", uses := [0, 1] },
  { name := "MessageBox", format := "ISIJIJ", uses := [0, 1, 2, 3, 4] },
  { name := "RmDir", format := "SI", uses := [0, 1] },
  { name := "StrLe", format := "VS", uses := [1], changes := [0], special := some .setFlag },
  { name := "StrCpy", format := "VSSS", uses := [1, 2, 3], changes := [0], special := some .copy },
  { name := "StrCmp", format := "SSJJI", uses := [0, 1, 2, 3, 4], checksFlow := true },
  { name := "ReadEnv", format := "VSI", uses := [1, 2], changes := [0] },
  { name := "IntCmp", format := "SSJJJI", uses := [0, 1, 2, 3, 4, 5], checksFlow := true },
  { name := "IntOp", format := "VSSO", uses := [1, 2, 3], changes := [0] },
  { name := "IntFmt", format := "VSS", uses := [1, 2], changes := [0] },
  { name := "PushPop", special := some .pushPop },
  { name := "FindWindow", format := "VSSSS", uses := [1, 2, 3, 4], changes := [0] },
  { name := "SendMessage", format := "VSSSS2", uses := [1, 2, 3, 4, 5], changes := [0] },
  { name := "IsWindow", format := "SJJ", uses := [0, 1, 2], checksFlow := true },
  { name := "GetDlgItem", format := "VSS", uses := [1, 2], changes := [0] },
  { name := "SetCtlColors", format := "SI", uses := [0, 1] },
  { name := "SetBrandingImage", format := "SII", uses := [0, 1] },
  { name := "CreateFont", format := "VSSSI", uses := [1, 2, 3, 4], changes := [0] },
  { name := "ShowWindow", format := "SS", uses := [0, 1], special := some .showWindow },
  { name := "ShellExec", format := "SSSS", uses := [0, 1, 2, 3] },
  { name := "Execute", format := "SII", uses := [0, 1, 2] },
  { name := "GetFileTime", format := "VVS", uses := [2], changes := [0, 1] },
  { name := "GetDLLVersion", format := "VVS", uses := [2], changes := [0, 1] },
  { name := "RegisterDLL", format := "SSSI", uses := [0, 1, 2, 3] },
  { name := "CreateShortcut", format := "SSSSS", uses := [0, 1, 2, 3, 4] },
  { name := "CopyFiles", format := "SSS", uses := [0, 1, 2] },
  { name := "Reboot" },
  { name := "WriteIni", format := "SSSS", uses := [0, 1, 2, 3] },
  { name := "ReadIni", format := "VSSS", uses := [1, 2, 3], changes := [0] },
  { name := "DeleteRegKey", format := "ISSS", uses := [0, 1, 2, 3], special := some .deleteReg },
  { name := "WriteRegValue", format := "ISSII", uses := [0, 1, 2, 3, 4] },
  { name := "ReadRegValue", format := "VISSI", uses := [1, 2, 3, 4], changes := [0] },
  { name := "RegEnumKey", format := "VISS", uses := [1, 2, 3], changes := [0],
    special := some .enumReg },
  { name := "FileClose", format := "V", uses := [0] },
  { name := "FileOpen", format := "VIIS", uses := [1, 2, 3], changes := [0] },
  { name := "FileWrite", format := "VS", uses := [0, 1], special := some .fileWrite },
  { name := "FileRead", format := "VVS", uses := [0, 2], changes := [1],
    special := some .fileRead },
  { name := "FileSeek", format := "VVSI", uses := [0, 2, 3], changes := [1] },
  { name := "FindClose", format := "V", uses := [0] },
  { name := "FindNext", format := "VV", uses := [1], changes := [0] },
  { name := "FindFirst", format := "VVS", uses := [2], changes := [0, 1] },
  { name := "WriteUninstaller", format := "SIIS", uses := [0, 1, 2, 3] },
  { name := "LogText", format := "S", uses := [0], special := some .log },
  { name := "SectionSet", format := "SII", uses := [0, 1, 2] },
  { name := "InstTypeSet", format := "SIII", uses := [0, 1, 2, 3] },
  { name := "GetLabelAddr" },
  { name := "GetFunctionAddr" },
  { name := "LockWindow", format := "I", uses := [0] }]

/-- The special forms, and the call of a plugin, which takes several entries. -/
def specialForms : List Instruction := [
  { name := "Push", format := "S", uses := [0] },
  { name := "Pop", format := "V", changes := [0] },
  { name := "Exch", format := "I", uses := [0], changes := [0] },
  { name := "ClearErrors" },
  { name := "IfErrors", format := "J", uses := [0] },
  { name := "AssignVar", format := "VS", uses := [1], changes := [0] },
  { name := "EnableWindow", format := "SS", uses := [0, 1] },
  { name := "HideWindow", format := "SS", uses := [0, 1] },
  { name := "DeleteRegValue", format := "ISSS", uses := [0, 1, 2, 3] },
  { name := "RegEnumValue", format := "VISS", uses := [1, 2, 3], changes := [0] },
  { name := "FileWriteByte", format := "VS", uses := [0, 1] },
  { name := "FileReadByte", format := "VV", uses := [0], changes := [1] },
  { name := "LogSet", format := "I", uses := [0] },
  { name := "PluginCall", uses := [0, 1, 2] }]

/-- All instructions by their opcodes. -/
def table : List Instruction := plain ++ specialForms

/-- The bits that describe an instruction. -/
def bits (i : Instruction) : List Nat :=
  (if i.stops then [Feature.stop] else []) ++ (if i.calls then [Feature.call] else [])
    ++ i.changes.map Feature.change ++ i.uses.map Feature.use

/-- The description of an instruction as a number. -/
def feature (i : Instruction) : Nat :=
  i.bits.foldr (fun k n => Bits.weight k + n) 0

/-- What stands for an opcode without an instruction. -/
def invalid : Instruction := { name := "INVALID" }

/-- The instruction with an opcode. -/
def ofOpcode (n : Nat) : Instruction :=
  table[n]?.getD invalid

/-- The description of the instruction with an opcode; zero if there is none. -/
def featureOf (n : Nat) : Nat :=
  (ofOpcode n).feature

end Instruction

end Nsis.Script
