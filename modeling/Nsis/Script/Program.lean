import Nsis.Bits
import Nsis.Image.Record
import Nsis.Script.Memory
import Nsis.Symbol.Decode

/-!
# Programs

What the disassembler knows about an installer: its version, the segments that its blocks were
loaded into, memory, and names of addresses. Parameters of entries count from the start of a
segment.

## Main definitions

* `Nsis.Script.Program` — version, segments, memory and names.
* `Nsis.Script.Program.stringAddress`, `varAddress`, `codeAddress` — the addresses that parameters
  stand for.
* `Nsis.Script.Program.symbolsAt` — the symbols of the string at an address.
* `Nsis.Script.Program.textAt` — its text.
-/

namespace Nsis.Script

/-- A range of addresses. -/
structure Segment where
  start : Int
  stop : Int
  deriving DecidableEq, Repr

/-- Whether an address is in a segment. -/
def Segment.contains (s : Segment) (address : Int) : Bool :=
  s.start ≤ address && address < s.stop

/-- What is known about a loaded installer. -/
structure Program where
  version : VersionTag
  segments : List (String × Segment)
  memory : Memory
  names : List (Int × String)
  deriving Repr

namespace Program

/-- The segment with a given name, which is used for its start or for membership. -/
def segment (p : Program) (name : String) (use : SegmentUse) : Except Fault Segment :=
  match p.segments.lookup name with
  | some s => .ok s
  | none => .error (.noSegment use)

/-- The bit of a string parameter that says that the string is in a table of languages. -/
def languageBit : Nat := 31

/-- The address of a string. A parameter for a table of languages is left as it is. -/
def stringAddress (p : Program) (n : Int) : Except Fault Int :=
  if Bits.isSet n languageBit then .ok n
  else (p.segment "STRINGS" .start).map fun s => n + s.start

/-- The address of a variable. -/
def varAddress (p : Program) (n : Int) : Except Fault Int :=
  (p.segment "VARS" .start).map fun s => n + s.start

/-- The address of an entry. -/
def codeAddress (p : Program) (n : Int) : Except Fault Int :=
  (p.segment "ENTRIES" .start).map fun s => Entry.offsetOf n + s.start

/-- The bytes of the string at an address, if the address is in the segment of strings; they end
with the segment. -/
def stringBytes (p : Program) (address : Int) : Except Fault (Option Bytes) :=
  (p.segment "STRINGS" .membership).map fun s =>
    if s.contains address then
      some (p.memory.bytes address (min (s.stop - address).toNat maxStringLength))
    else none

/-- The symbols of the string at an address and how many bytes it takes, if the address is in the
segment of strings. -/
def decodeAt (p : Program) (address : Int) : Except Fault (Option (List Symbol × Nat)) :=
  match p.stringBytes address with
  | .ok (some data) => (symbolize data 0 p.version).map some
  | .ok none => .ok none
  | .error e => .error e

/-- The symbols of the string at an address, if the address is in the segment of strings. -/
def symbolsAt (p : Program) (address : Int) : Except Fault (Option (List Symbol)) :=
  (p.decodeAt address).map fun r => r.map (·.1)

/-- The text of the string at an address and how many bytes it takes, if the address is in the
segment of strings. -/
def textAt (p : Program) (address : Int) : Except Fault (Option (String × Nat)) :=
  (p.decodeAt address).map fun r => r.map fun (symbols, n) => (Symbol.textOf symbols, n)

/-- The name of an address. -/
def nameAt (p : Program) (address : Int) : Option String :=
  p.names.lookup address

/-- The title of a listing. -/
def title (p : Program) : String :=
  "NSIS Script V" ++ p.version.plain

end Program

end Nsis.Script
