/-!
# Events

What the disassembler tells the database and the display.

## Main definitions

* `Nsis.Script.Event` — the events of references and of listings.
-/

namespace Nsis.Script

/-- How data are accessed. -/
inductive Access where
  | read
  | write
  deriving DecidableEq, Repr

/-- How code is reached. -/
inductive Flow where
  | call
  | jump
  | ordinary
  deriving DecidableEq, Repr

/-- The queues of addresses that deserve attention. -/
inductive Queue where
  | noName
  | jumps
  deriving DecidableEq, Repr

/-- The colours of text in a listing. -/
inductive Colour where
  | instruction
  | string
  | symbol
  deriving DecidableEq, Repr

/-- Events of references and of listings. -/
inductive Event where
  /-- A reference to data, from an offset inside the command. -/
  | dataRef (offset address : Int) (access : Access)
  /-- A reference to code. -/
  | codeRef (offset address : Int) (flow : Flow)
  /-- An address is put into a queue. -/
  | enqueue (queue : Queue) (address : Int)
  /-- A string is made at an address. -/
  | makeString (address : Int) (length : Nat)
  /-- An address is named. -/
  | makeName (address : Int) (name : String)
  /-- A coloured text. -/
  | text (s : String) (colour : Colour)
  /-- A punctuation mark. -/
  | symbol (c : Char)
  /-- A character. -/
  | char (c : Char)
  /-- The name of a register. -/
  | register (name : String)
  /-- A number in hexadecimal. -/
  | number (n : Int)
  /-- An address in hexadecimal. -/
  | address (n : Int)
  /-- The value of an operand. -/
  | value (n : Int)
  /-- From here on, text is shown as an error. -/
  | errorOn
  /-- Text is no longer shown as an error. -/
  | errorOff
  /-- The name of an instruction, in a column of given width. -/
  | mnemonic (width : Nat) (name : Option String)
  /-- An operand begins. -/
  | operand (i : Nat)
  /-- An operand could not be shown. -/
  | notShown
  /-- The name of an address, for an operand. -/
  | nameExpr (operand address offset : Int) (name : Option String)
  /-- The line is complete. -/
  | endLine
  deriving DecidableEq, Repr

end Nsis.Script
