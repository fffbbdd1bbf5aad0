import Nsis.Script.References
import Nsis.Signed
import Nsis.Text.Path

/-!
# Listings

How a command is shown: its name and its operands. The call of a plugin is shown by the names of the
library and the function.

## Main definitions

* `Nsis.Script.registerNames` — the names of the registers.
* `Nsis.Script.operatorNames` — the arithmetic operators.
* `Nsis.Script.showOperand` — showing an operand.
* `Nsis.Script.pluginName` — the name of a plugin's function.
* `Nsis.Script.listing` — showing a command.
-/

namespace Nsis.Script

/-- The names of the registers; the last two are segment registers without a use. -/
def registerNames : List String := [
  "$0", "$1", "$2", "$3", "$4", "$5", "$6", "$7", "$8", "$9",
  "$R0", "$R1", "$R2", "$R3", "$R4", "$R5", "$R6", "$R7", "$R8", "$R9", "CS", "DS"]

/-- The arithmetic operators. -/
def operatorNames : List String := [
  "+", "-", "*", "/", "|", "&", "^", "!", "||", "&&", "%", "<<", ">>"]

/-- The offset that stands for no address. -/
def noAddress : Int := 0xffffffff

/-- Show the name of an address, and tell whether it has one. -/
def showName (p : Program) (o : Operand) (address offset : Int) : Trace Event Bool := do
  Trace.emit (.nameExpr o.index address offset (p.nameAt address))
  return (p.nameAt address).isSome

/-- Show an address by its name. Where it has none, the address of the operand is shown as an
error. -/
def showAddress (p : Program) (c : Command) (o : Operand) (address : Int) : Telling := do
  if !(← showName p o address noAddress) then
    Trace.emit .errorOn
    Trace.emit (.address o.address)
    Trace.emit .errorOff
    Trace.emit (.enqueue .noName c.address)

/-- Show a symbol of a string: registers and variables by their names, numbers as numbers, and all
else in quotation marks. -/
def showSymbol (p : Program) (o : Operand) (s : Symbol) : Telling :=
  match s with
  | .var n =>
    if n < registerCount then do
      let name ← Trace.ofExcept (Signed.item registerNames n)
      Trace.emit (.register name)
    else do
      let address ← Trace.ofExcept (p.varAddress n)
      let _ ← showName p o address address
  | .literal text =>
    match Text.integer? text with
    | some n => Trace.emit (.number n)
    | none => Trace.emit (.text ("\"" ++ text ++ "\"") .string)
  | _ => Trace.emit (.text ("\"" ++ s.text ++ "\"") .string)

/-- Show the string at an address. Outside the segment of strings, the address is shown. -/
def showString (p : Program) (c : Command) (o : Operand) (address : Int) : Telling := do
  match ← Trace.ofExcept (p.symbolsAt address) with
  | none => showAddress p c o address
  | some [] => Trace.emit (.text "\"\"" .string)
  | some symbols => Trace.each (showSymbol p o) symbols

/-- What stands between two operands. -/
def comma : Telling := do
  Trace.emit (.symbol ',')
  Trace.emit (.char ' ')

/-- Show items with commas between them. -/
def commaSeparated {α : Type} (f : α → Telling) : List α → Telling
  | [] => return
  | a :: as => do
    f a
    Trace.each (fun a => do comma; f a) as

/-- Show an operand, and tell whether there was anything to show. -/
def showOperand (p : Program) (c : Command) (o : Operand) : Trace Event Bool := do
  match o.kind with
  | .register =>
    let name ← Trace.ofExcept (Signed.item registerNames o.register)
    Trace.emit (.register name)
    return true
  | .immediate =>
    if Bits.isSet o.marks OperandMark.operator then
      let name ← Trace.ofExcept (Signed.item operatorNames o.value)
      Trace.emit (.text name .symbol)
    else if Bits.isSet o.marks OperandMark.stackArgs then
      let args ← Trace.ofExcept (pluginArgs p c o.value)
      commaSeparated (showString p c o) args
    else Trace.emit (.value o.value)
    return true
  | .near =>
    showAddress p c o o.address
    return true
  | .memory =>
    if o.type = .string then showString p c o o.address
    else showAddress p c o o.address
    return true
  | .void | .other => return false

/-- Show operand `i` of a command. -/
def showOperandAt (p : Program) (c : Command) (i : Nat) : Telling := do
  Trace.emit (.operand i)
  match c.operands[i]? with
  | some o =>
    if !(← showOperand p c o) then Trace.emit .notShown
  | none => Trace.fail .itemRange

/-- The name of a plugin's function, from the texts of the library and the function. -/
def pluginName (library function : Option String) : Except Fault String :=
  match library with
  | some path => .ok (Text.Path.stem (Text.Path.baseName path) ++ "::" ++ function.getD "None")
  | none => .error .noPath

/-- The address of operand `i`. -/
def operandAddress (c : Command) (i : Nat) : Int :=
  (c.operands[i]?.map (·.address)).getD 0

/-- Show the call of a plugin. -/
def pluginListing (p : Program) (c : Command) : Telling := do
  let library ← Trace.ofExcept (p.textAt (operandAddress c 0))
  let function ← Trace.ofExcept (p.textAt (operandAddress c 1))
  let name ← Trace.ofExcept (pluginName (library.map (·.1)) (function.map (·.1)))
  Trace.emit (.text name .instruction)
  Trace.emit (.char ' ')
  showOperandAt p c 2

/-- The width of the column for the name of an instruction. -/
def mnemonicWidth : Nat := 12

/-- The numbers of the operands up to the first one that is void. -/
def shownOperands (c : Command) : List Nat :=
  List.range ((c.operands.take Command.operandCount).takeWhile fun o => o.kind ≠ .void).length

/-- Show a command. -/
def listing (p : Program) (c : Command) : Telling := do
  if Bits.isSet c.marks CommandMark.pluginCall then pluginListing p c
  else
    Trace.emit (.mnemonic mnemonicWidth ((Signed.get? Instruction.table c.opcode).map (·.name)))
    commaSeparated (showOperandAt p c) (shownOperands c)
  Trace.emit .endLine

end Nsis.Script
