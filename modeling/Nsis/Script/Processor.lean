import Nsis.Script.Listing

/-!
# The processor

What the database is told about the processor that runs scripts, and where its modules are
installed.

## Main definitions

* `Nsis.Script.Processor` — the description of the processor.
* `Nsis.Script.processor` — the processor that runs scripts.
* `Nsis.Script.instructionEnd` — the number behind the last instruction.
* `Nsis.Script.installLinks` — the links that install the modules.
-/

namespace Nsis.Script

/-- The description of a processor. -/
structure Processor where
  id : Nat
  registers : List String
  /-- The segment registers: the first and the last one, that of code and that of data. -/
  firstSegment : Nat
  lastSegment : Nat
  codeSegment : Nat
  dataSegment : Nat
  pointerSize : Nat
  /-- The entries that leave a function. -/
  returnCodes : List Bytes
  /-- The size of a return address. -/
  returnSize : Nat
  deriving DecidableEq, Repr

/-- The place of a register among the registers. -/
def registerNumber (name : String) : Nat :=
  registerNames.idxOf name

/-- The processor that runs scripts. -/
def processor : Processor where
  id := 0x8513
  registers := registerNames
  firstSegment := registerNumber "CS"
  lastSegment := registerNumber "DS"
  codeSegment := registerNumber "CS"
  dataSegment := registerNumber "DS"
  pointerSize := 4
  returnCodes := [Bytes.ofValue Entry.size Opcode.ret]
  returnSize := 4

/-- The number behind the last instruction, with one to spare. -/
def instructionEnd : Nat := Instruction.table.length + 1

/-- The instruction with a number, which may count from the end, and its opcode. -/
def instructionAt (i : Int) : Except Fault (Nat × Instruction) :=
  (Signed.item Instruction.table i).map fun ins => (Instruction.table.idxOf ins, ins)

/-- Where the disassembler is expected, seen from the directory of the modules. -/
def defaultPlace : String := "../../../../../.."

/-- The links that install the two modules in `home` into a disassembler: for each the file and the
link. Without a place, the disassembler is looked for from `home`. -/
def installLinks (home : String) (place : Option String) : List (String × String) :=
  let place := place.getD (Text.Path.join home defaultPlace)
  [(Text.Path.join home "loader.py", Text.Path.join place "loaders/nsis.py"),
    (Text.Path.join home "proc.py", Text.Path.join place "procs/nsis_script.py")]

end Nsis.Script
