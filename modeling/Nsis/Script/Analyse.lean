import Nsis.Script.Command
import Nsis.Script.Instruction
import Nsis.Script.Program
import Nsis.Text.Integer

/-!
# Decoding instructions

An entry of the script becomes a command. Some entries are told apart by their parameters, and a
certain sequence of entries is the call of a plugin, which becomes one command.

A fault leaves the command as far as it was decoded.

## Main definitions

* `Nsis.Script.Analysis` — a computation on a command.
* `Nsis.Script.setString`, `setVar`, `setJump`, `setNumber` — filling in an operand.
* `Nsis.Script.decode` — decoding parameters by a format.
* `Nsis.Script.Command.nextWord`, `nextParams` — reading an entry.
* `Nsis.Script.Command.nextPluginCall` — recognising the call of a plugin.
* `Nsis.Script.analyse` — decoding the entry at the address of a command.
-/

namespace Nsis.Script

/-- A computation on a command, which keeps the command when it fails. -/
abbrev Analysis := EStateM Fault Command

/-- Go on with a result that may be a fault. -/
def Analysis.ofExcept {α : Type} : Except Fault α → Analysis α
  | .ok a => pure a
  | .error e => throw e

/-- Change operand `i`. -/
def changeOperand (i : Nat) (f : Operand → Operand) : Analysis Unit := do
  let c ← get
  match c.operands[i]? with
  | some o => set { c with operands := c.operands.set i (f o) }
  | none => throw .itemRange

/-- Mark the command. -/
def markCommand (k : Nat) : Analysis Unit :=
  modify fun c => { c with marks := Bits.set c.marks k }

/-- Mark operand `i`. -/
def markOperand (i k : Nat) : Analysis Unit :=
  changeOperand i fun o => { o with marks := Bits.set o.marks k }

/-- Make operand `i` a number. -/
def setNumber (i : Nat) (n : Int) : Analysis Unit :=
  changeOperand i fun o => { o with kind := .immediate, type := .dword, value := n }

/-- The number of variables that are registers. -/
def registerCount : Int := 20

/-- The parameter that stands for no variable. -/
def noVar : Int := 0xffffffff

/-- Make operand `i` a variable: a register, a byte in memory, or the number −1 where there is
none. -/
def setVar (p : Program) (i : Nat) (n : Int) : Analysis Unit := do
  if n < registerCount then
    changeOperand i fun o => { o with kind := .register, register := n }
  else if n = noVar then setNumber i (-1)
  else
    changeOperand i fun o => { o with kind := .memory, type := .byte }
    let address ← Analysis.ofExcept (p.varAddress n)
    changeOperand i fun o => { o with address := address }

/-- Make operand `i` a string in memory. -/
def setStringAt (i : Nat) (address : Int) : Analysis Unit :=
  changeOperand i fun o => { o with kind := .memory, type := .string, address := address }

/-- Make operand `i` a string. One that consists of a single variable, or is a number, becomes that
variable or number. -/
def setString (p : Program) (i : Nat) (n : Int) : Analysis Unit := do
  let address ← Analysis.ofExcept (p.stringAddress n)
  let symbols ← Analysis.ofExcept (p.symbolsAt address)
  match symbols with
  | some [.var v] => setVar p i v
  | some [.literal text] =>
    match Text.integer? text with
    | some value => setNumber i value
    | none => setStringAt i address
  | _ => setStringAt i address

/-- Make operand `i` an address to jump to; entries are counted from one. -/
def setJump (p : Program) (i : Nat) (n : Int) : Analysis Unit := do
  changeOperand i fun o => { o with kind := .near }
  let address ← Analysis.ofExcept (p.codeAddress (n - 1))
  changeOperand i fun o => { o with address := address }

/-- Decode parameter `n` as operand `i` by a letter of the format. The answer is whether the letter
leaves a jump out, so that control may go on. -/
def decodeOperand (p : Program) (i : Nat) (letter : Char) (n : Int) : Analysis Bool := do
  if Command.operandCount ≤ i then throw .itemRange
  match letter with
  | 'I' => setNumber i n; return false
  | 'S' => setString p i n; return false
  | 'V' => setVar p i n; return false
  | 'J' =>
    if 0 < n then setJump p i n; return false
    else setNumber i n; return true
  | 'O' => setNumber i n; markOperand i OperandMark.operator; return false
  | '2' => setNumber i (n / 4); return false
  | c => throw (.unknownFormat c)

/-- Decode parameters from operand `i` on. The answer is whether a jump was left out. -/
def decodeOperands (p : Program) (i : Nat) : List Char → List Int → Analysis Bool
  | c :: cs, n :: ns => do
    let here ← decodeOperand p i c n
    let later ← decodeOperands p (i + 1) cs ns
    return here || later
  | _, _ => return false

/-- Decode parameters by a format. Control does not go on behind a command that is to be checked and
has all of its jumps. -/
def decode (p : Program) (format : List Char) (params : List Int) : Analysis Unit := do
  if format.isEmpty then
    changeOperand 0 fun o => { o with kind := .void }
  else
    let checks := format.contains 'J' && Bits.isSet (← get).marks CommandMark.checksFlow
    let leftOut ← decodeOperands p 0 format params
    if checks && !leftOut then markCommand CommandMark.noFlow

/-! ### Reading entries

The size of a command is also the cursor through which its words are read: the next word stands
that many bytes behind its address. -/

namespace Command

/-- Read the next word. -/
def nextWord (p : Program) (c : Command) : Nat × Command :=
  (p.memory.dword (c.address + c.size), { c with size := c.size + 4 })

/-- Read the next `n` words. -/
def nextWords (p : Program) : (n : Nat) → Command → List Int × Command
  | 0, c => ([], c)
  | n + 1, c =>
    let word := c.nextWord p
    let words := nextWords p n word.2
    (word.1 :: words.1, words.2)

/-- Read the parameters of an entry, behind its opcode. -/
def nextParams (p : Program) (c : Command) : List Int × Command :=
  nextWords p 6 c

/-- Reading words moves the cursor. -/
theorem snd_nextWords (p : Program) (n : Nat) (c : Command) :
    (nextWords p n c).2 = { c with size := c.size + 4 * n } := by
  induction n generalizing c with
  | zero => simp [nextWords]
  | succ n ih =>
    simp only [nextWords, ih, nextWord, mk.injEq, and_true, true_and]
    omega

/-- The six parameters of an entry are passed. -/
theorem snd_nextParams (p : Program) (c : Command) :
    (c.nextParams p).2 = { c with size := c.size + 24 } :=
  snd_nextWords p 6 c

end Command

/-! ### Calls of plugins -/

/-- The call of a plugin: its number of arguments, and the parameters of the entry that makes it. -/
structure PluginCall where
  args : Nat
  params : List Int
  deriving DecidableEq, Repr

/-- Read the arguments of a plugin, after `n` others: entries that push a string, and then the entry
that makes the call. An entry that is neither ends the attempt. -/
def Command.nextPluginArgs (p : Program) (n : Nat) (c : Command) : Option PluginCall × Command :=
  let word := c.nextWord p
  if _h : word.1 = Opcode.pushPop then
    let params := word.2.nextParams p
    if params.1[1]? = some 0 && params.1[2]? = some 0 then params.2.nextPluginArgs p (n + 1)
    else (none, params.2)
  else if word.1 = Opcode.registerDll then
    let params := word.2.nextParams p
    (some ⟨n, params.1⟩, params.2)
  else (none, word.2)
termination_by (p.memory.limit - (c.address + c.size)).toNat
decreasing_by
  have : p.memory.dword (c.address + c.size) ≠ 0 := by
    have hp : p.memory.dword (c.address + c.size) = Opcode.pushPop := _h
    simp [hp, Opcode.pushPop]
  have := Memory.lt_limit this
  simp only [snd_nextParams, nextWord]
  omega

/-- Try to read the call of a plugin, behind an entry that was read: that entry is a call, and then
come the unpacking of the plugin, a flag, the arguments and the call itself. -/
def Command.nextPluginCall (p : Program) (opcode : Nat) (c : Command) :
    Option PluginCall × Command :=
  if opcode ≠ Opcode.call then (none, c)
  else
    let second := c.nextWord p
    if second.1 ≠ Opcode.extractFile then (none, second.2)
    else
      let third := (second.2.nextParams p).2.nextWord p
      if third.1 ≠ Opcode.setFlag then (none, third.2)
      else (third.2.nextParams p).2.nextPluginArgs p 0

/-- Decode the call of a plugin: the library, the function, and the number of arguments. All of its
entries were read. -/
def decodePluginCall (p : Program) (call : PluginCall) : Analysis Nat := do
  modify fun c => { c with opcode := Opcode.pluginCall }
  setString p 0 (call.params[0]?.getD 0)
  setString p 1 (call.params[1]?.getD 0)
  setNumber 2 call.args
  markOperand 2 OperandMark.stackArgs
  markCommand CommandMark.pluginCall
  return (← get).size.toNat

/-! ### Decoding an entry -/

/-- The instruction of an entry, and its opcode, after its parameters were looked at. An opcode
without an instruction is kept. -/
def specialised (opcode : Nat) (params : List Int) : Except Fault (Nat × Instruction) :=
  let plain := Instruction.ofOpcode opcode
  match plain.special with
  | some s => (s.opcode opcode params).map fun n => (n.toNat, Instruction.ofOpcode n.toNat)
  | none => .ok (opcode, plain)

/-- Decode a single entry. What was read behind it is left to the commands that follow. -/
def decodeEntry (p : Program) (opcode : Nat) (params : List Int) : Analysis Nat := do
  modify fun c => { c with size := Entry.size }
  let (opcode, instruction) ← Analysis.ofExcept (specialised opcode params)
  modify fun c => { c with opcode := opcode }
  if instruction.checksFlow then markCommand CommandMark.checksFlow
  decode p instruction.format.toList params
  return Entry.size

/-- Decode the entry at the address of the command; the answer is the size of the command. -/
def analyse (p : Program) : Analysis Nat := do
  let opcode ← modifyGet (Command.nextWord p)
  let params ← modifyGet (Command.nextParams p)
  match ← modifyGet (Command.nextPluginCall p opcode) with
  | some call => decodePluginCall p call
  | none => decodeEntry p opcode params

/-- The command at an address, and its size or the fault that ended decoding. -/
def analyseAt (p : Program) (address : Int) : Except Fault Nat × Command :=
  match (analyse p).run (Command.fresh address) with
  | .ok size c => (.ok size, c)
  | .error e c => (.error e, c)

end Nsis.Script
