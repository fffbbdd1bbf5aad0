import Nsis.Datum.Place
import Nsis.Formula.Class

/-!
# Filling places

The places of a text are filled with arguments one after the other. A format can have places of its
own, which are filled first.

## Main definitions

* `Nsis.Evaluator.filled` — a text with its places filled.
-/

namespace Nsis.Evaluator

open Evaluation

variable (e : Evaluator)

/-- What places are filled with: arguments by their numbers, if there are any, and by their
names. -/
structure Fillings where
  plain : Option (List Datum)
  named (name : String) : Evaluation Datum

/-- The part or item of data that a place means. -/
def reached : (fuel : Nat) → Datum → List Char → Evaluation Datum
  | 0, d, _ | _, d, [] => return d
  | fuel + 1, d, cs => do
    match ← Datum.firstStep cs with
    | (.part name, rest) => reached fuel (← e.partOf d name) rest
    | (.item position, rest) => reached fuel (← e.itemOf d position) rest

/-- What a place is filled with. -/
def fillingOf (f : Fillings) (p : Datum.Place) (index : Option Nat) : Evaluation Datum := do
  let d ← match index, f.plain with
    | some i, some plain =>
      match plain[i]? with
      | some d => pure d
      | none => throw (.misuse (.placeIndex i))
    | some _, none => throw (Datum.placeFault .positional)
    | none, _ => f.named (String.ofList p.name)
  let d ← e.reached p.path.length d p.path
  match p.conversion with
  | none => return d
  | some 's' => return .text (← e.written d)
  | some 'r' => return .text (← e.shown d)
  | some 'a' => return .text (Text.inAscii (← e.shown d))
  | some c => throw (Datum.placeFault (.conversion c))

/-- A text with its places filled, and how the places are numbered. Formats may have places of their
own as deep as `depth` says. -/
def fill (f : Fillings) : (depth fuel : Nat) → Datum.Numbering → List Char →
    Evaluation (List Char × Datum.Numbering)
  | 0, _, _, _ => throw (Datum.placeFault .tooDeep)
  | _, 0, n, cs => return (cs, n)
  | depth + 1, fuel + 1, n, cs => do
    let (before, place, rest) ← Datum.firstPlace cs
    match place with
    | none => return (before, n)
    | some p =>
      let (index, n) ← n.next p.name
      let d ← e.fillingOf f p index
      let (format, n) ← if p.format.contains '\x7b' || p.format.contains '\x7d' then
          fill f depth fuel n p.format
        else pure (p.format, n)
      let s ← e.formatted d (String.ofList format)
      let (behind, n) ← fill f (depth + 1) fuel n rest
      return (before ++ s.toList ++ behind, n)
termination_by depth fuel => (fuel, depth)

/-- A text with its places filled. -/
def filled (s : String) (f : Fillings) : Evaluation Datum := do
  let (cs, _) ← e.fill f 2 (s.length + 1) .unknown s.toList
  return .text (String.ofList cs)

/-- A text with its places filled by arguments. -/
def filledWith (s : String) (a : Datum.Arguments) : Evaluation Datum :=
  e.filled s {
    plain := some a.plain
    named := fun name =>
      match a.labelled.lookup name with
      | some d => return d
      | none => throw (.noKey (Text.quoted name)) }

/-- A text with its places filled by the entries of a record. -/
def filledFrom (s : String) (d : Datum) : Evaluation Datum :=
  e.filled s { plain := none, named := fun name => e.itemOf d (.text name) }

end Nsis.Evaluator
