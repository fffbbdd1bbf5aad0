import Nsis.Fault
import Nsis.Signed

/-!
# Special forms

Some opcodes stand for several instructions, and the parameters tell which one. The special
instructions have opcodes of their own, behind those that installers use.

## Main definitions

* `Nsis.Script.Opcode` — the opcodes that have a meaning here.
* `Nsis.Script.Specialisation` — the ways to tell instructions apart.
* `Nsis.Script.Specialisation.opcode` — the opcode that parameters tell.
-/

namespace Nsis.Script

namespace Opcode

/-- Leave a function. -/
def ret : Nat := 0x01
/-- Call a function. -/
def call : Nat := 0x05
/-- Set a flag. -/
def setFlag : Nat := 0x0d
/-- Unpack a file. -/
def extractFile : Nat := 0x14
/-- Push, pop or exchange. -/
def pushPop : Nat := 0x1f
/-- Load a library and call a function of it. -/
def registerDll : Nat := 0x2c
/-- Delete a registry key. -/
def deleteRegKey : Nat := 0x32
/-- Enumerate registry keys. -/
def regEnumKey : Nat := 0x35
/-- Write a text to a file. -/
def fileWrite : Nat := 0x38
/-- Read a text from a file. -/
def fileRead : Nat := 0x39
/-- Write to the log. -/
def logText : Nat := 0x3f
/-- Push a string. -/
def push : Nat := 69
/-- Pop into a variable. -/
def pop : Nat := 70
/-- Exchange stack items. -/
def exch : Nat := 71
/-- Clear the error flag. -/
def clearErrors : Nat := 72
/-- Jump if the error flag is set. -/
def ifErrors : Nat := 73
/-- Assign a string to a variable. -/
def assignVar : Nat := 74
/-- Enable a window. -/
def enableWindow : Nat := 75
/-- Hide a window. -/
def hideWindow : Nat := 76
/-- Delete a registry value. -/
def deleteRegValue : Nat := 77
/-- Enumerate registry values. -/
def regEnumValue : Nat := 78
/-- Write a byte to a file. -/
def fileWriteByte : Nat := 79
/-- Read a byte from a file. -/
def fileReadByte : Nat := 80
/-- Switch the log on or off. -/
def logSet : Nat := 81
/-- Call a plugin. -/
def pluginCall : Nat := 82

end Opcode

/-- The ways to tell instructions of one opcode apart. -/
inductive Specialisation where
  | pushPop
  | setFlag
  | ifFlag
  | copy
  | showWindow
  | deleteReg
  | enumReg
  | fileWrite
  | fileRead
  | log
  deriving DecidableEq, Repr

namespace Specialisation

/-- The parameter with a given number. -/
def param (params : List Int) (i : Nat) : Except Fault Int :=
  match params[i]? with
  | some p => .ok p
  | none => .error .itemRange

/-- Whether a parameter is zero. -/
def isZero (params : List Int) (i : Nat) : Except Fault Bool :=
  (param params i).map (· = 0)

/-- The opcode that the parameters tell, for an entry with opcode `own`. Later parameters are looked
at only if the earlier ones leave a choice. -/
def opcode (s : Specialisation) (own : Int) (params : List Int) : Except Fault Int := do
  match s with
  | pushPop =>
    if !(← isZero params 1) then return Opcode.pop
    if !(← isZero params 2) then return Opcode.exch
    return Opcode.push
  | setFlag =>
    if (← param params 0) ≠ 2 then return own
    if (← param params 1) ≠ 0xac then return own
    return Opcode.clearErrors
  | ifFlag =>
    if !(← isZero params 1) then return own
    if (← param params 2) ≠ 2 then return own
    if !(← isZero params 3) then return own
    return Opcode.ifErrors
  | copy =>
    if !(← isZero params 2) then return own
    if !(← isZero params 3) then return own
    return Opcode.assignVar
  | showWindow =>
    if !(← isZero params 2) then return Opcode.hideWindow
    if !(← isZero params 3) then return Opcode.enableWindow
    return own
  | deleteReg =>
    if !(← isZero params 4) then return Opcode.deleteRegKey
    return Opcode.deleteRegValue
  | enumReg =>
    if !(← isZero params 4) then return Opcode.regEnumKey
    return Opcode.regEnumValue
  | fileWrite =>
    if !(← isZero params 2) then return Opcode.fileWriteByte
    return Opcode.fileWrite
  | fileRead =>
    if !(← isZero params 3) then return Opcode.fileReadByte
    return Opcode.fileRead
  | log =>
    if !(← isZero params 0) then return Opcode.logSet
    return Opcode.logText

end Specialisation

end Nsis.Script
