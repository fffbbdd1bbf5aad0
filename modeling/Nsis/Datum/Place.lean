import Nsis.Datum.Arity
import Nsis.Text.Integer

/-!
# Places in texts

A text can have places between braces that data are written into. A place has the name or number of
an argument, parts and items of it that are meant, how it is turned into a text, and its format.

## Main definitions

* `Nsis.Datum.Place` — a place.
* `Nsis.Datum.firstPlace` — the text before the first place, and the place.
* `Nsis.Datum.firstStep` — the first part or item of an argument that a place means.
* `Nsis.Datum.Numbering` — whether places have numbers.
-/

namespace Nsis.Datum

/-- A place in a text. -/
structure Place where
  /-- The name or number of an argument. -/
  name : List Char
  /-- The parts and items of the argument that are meant. -/
  path : List Char
  conversion : Option Char := none
  format : List Char := []

/-- A part or item of data. -/
inductive Step where
  | part (name : String)
  | item (position : Datum)

/-- Whether the places of a text have numbers, or get them in turn. -/
inductive Numbering where
  | unknown
  | given
  /-- The number of the next place. -/
  | inTurn (next : Nat)

/-- The fault of a text with places. -/
def placeFault (flaw : Misuse.PlaceFlaw) : Fault :=
  .misuse (.textPlace flaw)

/-- The characters of the name of a place with its path, the one that ends it, and what follows.
Brackets hide what ends the name. -/
def headOfPlace : (inBracket : Bool) → List Char → Except Fault (List Char × Char × List Char)
  | _, [] => .error (placeFault .unfinished)
  | true, c :: cs => do
    let (head, stop, rest) ← headOfPlace (c ≠ ']') cs
    return (c :: head, stop, rest)
  | false, c :: cs =>
    if c = '\x7b' then .error (placeFault .braceInName)
    else if c = '\x7d' || c = ':' || c = '!' then .ok ([], c, cs)
    else do
      let (head, stop, rest) ← headOfPlace (c = '[') cs
      return (c :: head, stop, rest)

/-- The format of a place up to the brace that closes it, and what follows. -/
def formatOfPlace : (depth : Nat) → List Char → Except Fault (List Char × List Char)
  | _, [] => .error (placeFault .openFormat)
  | depth, c :: cs =>
    if c = '\x7d' && depth = 0 then .ok ([], cs)
    else do
      let depth := if c = '\x7b' then depth + 1 else if c = '\x7d' then depth - 1 else depth
      let (format, rest) ← formatOfPlace depth cs
      return (c :: format, rest)

/-- A place behind its opening brace, and what follows it. -/
def placeBehind (cs : List Char) : Except Fault (Place × List Char) := do
  let (head, stop, rest) ← headOfPlace false cs
  let isEnd := fun (c : Char) => c = '.' || c = '['
  let p : Place := { name := head.takeWhile (!isEnd ·), path := head.dropWhile (!isEnd ·) }
  if stop = '\x7d' then return (p, rest)
  if stop = ':' then
    let (format, rest) ← formatOfPlace 0 rest
    return ({ p with format }, rest)
  match rest with
  | [] => throw (placeFault .noConversion)
  | [_] => throw (placeFault .openFormat)
  | letter :: c :: rest =>
    let p := { p with conversion := some letter }
    if c = '\x7d' then return (p, rest)
    if c ≠ ':' then throw (placeFault .behindConversion)
    let (format, rest) ← formatOfPlace 0 rest
    return ({ p with format }, rest)

/-- The text before the first place, the place if there is one, and what follows. Double braces
stand for single ones. -/
def firstPlace : List Char → Except Fault (List Char × Option Place × List Char)
  | [] => .ok ([], none, [])
  | '\x7b' :: '\x7b' :: cs => do
    let (before, p, rest) ← firstPlace cs
    return ('\x7b' :: before, p, rest)
  | '\x7d' :: '\x7d' :: cs => do
    let (before, p, rest) ← firstPlace cs
    return ('\x7d' :: before, p, rest)
  | '\x7b' :: [] => .error (placeFault (.single '\x7b'))
  | '\x7d' :: _ => .error (placeFault (.single '\x7d'))
  | '\x7b' :: cs => do
    let (p, rest) ← placeBehind cs
    return ([], some p, rest)
  | c :: cs => do
    let (before, p, rest) ← firstPlace cs
    return (c :: before, p, rest)

/-- The first part or item of an argument that a place means, and the others. -/
def firstStep (cs : List Char) : Except Fault (Step × List Char) :=
  match cs with
  | '.' :: cs =>
    let name := cs.takeWhile fun c => c ≠ '.' && c ≠ '['
    if name.isEmpty then .error (placeFault .emptyPart)
    else .ok (.part (String.ofList name), cs.drop name.length)
  | '[' :: cs =>
    let key := cs.takeWhile (· ≠ ']')
    if key.length = cs.length then .error (placeFault .openBracket)
    else if key.isEmpty then .error (placeFault .emptyPart)
    else
      let position := match Text.decimal? key with
        | some n => number n
        | none => text (String.ofList key)
      .ok (.item position, cs.drop (key.length + 1))
  | _ => .error (placeFault .behindBracket)

/-- The number of a place with a name, if it has one, and how the places are numbered then. -/
def Numbering.next (n : Numbering) (name : List Char) :
    Except Fault (Option Nat × Numbering) :=
  match name.isEmpty, Text.decimal? name, n with
  | true, _, .given => .error (placeFault (.mixed false))
  | true, _, .inTurn i => .ok (some i, .inTurn (i + 1))
  | true, _, .unknown => .ok (some 0, .inTurn 1)
  | false, some _, .inTurn _ => .error (placeFault (.mixed true))
  | false, some i, _ => .ok (some i, .given)
  | false, none, n => .ok (none, n)

end Nsis.Datum
