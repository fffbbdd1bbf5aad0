import Nsis.Script.Analyse
import Nsis.Script.Event
import Nsis.Text.Name
import Nsis.Trace

/-!
# References of commands

Which data and which code a command refers to, and whether control goes on behind it.

## Main definitions

* `Nsis.Script.pluginArgs` — the addresses of the arguments of a plugin.
* `Nsis.Script.stringRefs` — the references of a string.
* `Nsis.Script.operandRefs` — the references of an operand.
* `Nsis.Script.references` — the references of a command.
-/

namespace Nsis.Script

/-- A computation that tells events. -/
abbrev Telling := Trace Event Unit

/-- The addresses of the `n` arguments of a plugin that a command calls: strings that are pushed
behind its first three entries. -/
def pluginArgs (p : Program) (c : Command) (n : Int) : Except Fault (List Int) :=
  (List.range n.toNat).mapM fun (i : Nat) =>
    p.stringAddress (p.memory.dword (c.address + 3 * Entry.size + 4 + i * Entry.size))

/-- How many characters of a string are taken for its name. -/
def maxNameLength : Nat := 15

/-- The references of the symbols of a string: to the variables in it, and to each literal that is
no number, which is also made a string and named after its text. The address advances by the
length of a literal, and by four for other symbols. -/
def symbolRefs (p : Program) (offset address : Int) : List Symbol → Telling
  | [] => return
  | .literal text :: rest => do
    if (Text.integer? text).isNone then
      Trace.emit (.dataRef offset address .read)
      Trace.emit (.makeString address text.length)
      Trace.emit (.makeName address (String.ofList ((Text.name text).toList.take maxNameLength)))
    symbolRefs p offset (address + text.length) rest
  | .var n :: rest => do
    if registerCount ≤ n then
      let var ← Trace.ofExcept (p.varAddress n)
      Trace.emit (.dataRef offset var .read)
    symbolRefs p offset (address + 4) rest
  | _ :: rest => symbolRefs p offset (address + 4) rest

/-- The references of the string at an address. -/
def stringRefs (p : Program) (offset address : Int) : Telling := do
  match ← Trace.ofExcept (p.symbolsAt address) with
  | some symbols => symbolRefs p offset address symbols
  | none => return

/-- The references of an operand that is read or written. -/
def operandRefs (p : Program) (c : Command) (o : Operand) (access : Access) : Telling :=
  let offset := (o.index + 1) * 4
  match o.kind with
  | .memory =>
    if o.type = .string then stringRefs p offset o.address
    else Trace.emit (.dataRef offset o.address access)
  | .near =>
    Trace.emit (.codeRef offset o.address (if c.opcode = Opcode.call then .call else .jump))
  | .immediate =>
    if Bits.isSet o.marks OperandMark.stackArgs then do
      let args ← Trace.ofExcept (pluginArgs p c o.value)
      Trace.each (fun address => stringRefs p 0 address) args
    else return
  | _ => return

/-- The operands of a command whose bit is set in its description. -/
def described (c : Command) (feature : Int) (bit : Nat → Nat) : List Operand :=
  ((List.range Command.operandCount).filter fun i => Bits.isSet feature (bit i)).filterMap
    fun i => c.operands[i]?

/-- Whether control goes on behind a command. -/
def flowsOn (c : Command) (feature : Int) : Bool :=
  !(Bits.isSet feature Feature.stop || Bits.isSet c.marks CommandMark.noFlow)

/-- The references of a command that is described by `feature`: of the operands that are used, of
those that are changed, and to the command behind it. -/
def references (p : Program) (c : Command) (feature : Int) : Telling := do
  Trace.each (fun o => operandRefs p c o .read) (described c feature Feature.use)
  Trace.each (fun o => operandRefs p c o .write) (described c feature Feature.change)
  if Bits.isSet feature Feature.jump then
    Trace.emit (.enqueue .jumps c.address)
  if flowsOn c feature then
    Trace.emit (.codeRef 0 (c.address + c.size) .ordinary)

end Nsis.Script
