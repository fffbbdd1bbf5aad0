import Nsis.Bits

/-!
# Commands

A command is a decoded instruction: where it stands, how long it is, its opcode and its operands.

## Main definitions

* `Nsis.Script.Operand` — an operand.
* `Nsis.Script.OperandMark`, `Nsis.Script.CommandMark` — marks of operands and commands.
* `Nsis.Script.Command` — a command.
* `Nsis.Script.Command.fresh` — a command before decoding.
-/

namespace Nsis.Script

/-- The kinds of operands. -/
inductive OperandKind where
  | void
  | register
  | memory
  | immediate
  | near
  /-- A kind without a meaning. -/
  | other
  deriving DecidableEq, Repr

/-- What an operand in memory, or an immediate one, consists of. -/
inductive OperandType where
  | byte
  | dword
  | string
  deriving DecidableEq, Repr

/-- An operand. Fields that do not belong to its kind keep what they had before. -/
structure Operand where
  /-- The place of the operand in its command. -/
  index : Int
  kind : OperandKind := .void
  type : OperandType := .byte
  address : Int := 0
  value : Int := 0
  register : Int := 0
  marks : Int := 0
  deriving DecidableEq, Repr

/-! ### Marks of operands -/

namespace OperandMark

/-- The operand is an arithmetic operator. -/
def operator : Nat := 0
/-- The operand is a number of arguments on the stack. -/
def stackArgs : Nat := 4

end OperandMark

/-! ### Marks of commands -/

namespace CommandMark

/-- The command is a call of a plugin. -/
def pluginCall : Nat := 1
/-- Whether control goes on has to be checked. -/
def checksFlow : Nat := 2
/-- Control does not go on behind the command. -/
def noFlow : Nat := 3

end CommandMark

/-- A command. -/
structure Command where
  address : Int
  size : Int := 0
  opcode : Int := 0
  marks : Int := 0
  operands : List Operand
  deriving DecidableEq, Repr

namespace Command

/-- The number of operands. -/
def operandCount : Nat := 6

/-- Operands before decoding. -/
def freshOperands : List Operand :=
  (List.range operandCount).map fun (i : Nat) => { index := i }

/-- A command before decoding. -/
def fresh (address : Int) : Command where
  address := address
  operands := freshOperands

end Command

end Nsis.Script
