import Nsis.Report.Dump
import Nsis.Report.Vocabulary

/-!
# Lines on request

A line of a report can be asked for with data from outside. The data are looked at in the order in
which the line is put together, and the first part that does not fit is the fault.

## Main definitions

* `Nsis.Report.Request` — a line with the data for its parts.
* `Nsis.Report.Request.line` — the line, or the first fault.
* `Nsis.Report.Request.outputs` — lines with what their formulas print.
-/

namespace Nsis.Report

/-- Where the text of a string is looked up. -/
inductive Source where
  | installer (i : Installer)
  /-- Other data, which have no strings. -/
  | other (d : Datum)

/-- A line that is asked for, with the data for its parts. -/
inductive Request where
  | heading (text indent : Datum)
  | quotation (text indent : Datum)
  | property (key value indent : Datum)
  | flagged (key value flags indent : Datum)
  | named (key value names indent : Datum)
  | reference (key address : Datum) (source : Source) (indent : Datum)

namespace Request

/-- How many tabulators no memory has room for. -/
def tabRoom : Int := 0x800000000000

/-- A number of tabulators. -/
def tabCount (n : Int) : Except Fault Int :=
  if !Signed.fits n then .error .hugeCount
  else if tabRoom ≤ n then .error .noMemory
  else .ok n

/-- Data as a number of tabulators. -/
def indentOf (d : Datum) : Except Fault Int :=
  match d.number? with
  | some n => tabCount n
  | none => .error (.notCount d.kind)

/-- Data as a text that is appended to another one. -/
def textOf : Datum → Except Fault String
  | .text s => .ok s
  | d => .error (.notText d.kind)

/-- Data as a key, which stands one step further in than its indentation. -/
def keyOf (key indent : Datum) : Except Fault (String × Int) := do
  let n ← indentOf (← Datum.combine .plus indent (.number 1))
  match ← Datum.combine .plus key (.text "") with
  | .text s => return (s, n - 1)
  | d => throw (.notText d.kind)

/-- Data as a number that is shown in eight columns. -/
def shownNumber (d : Datum) : Except Fault Int :=
  match d.number? with
  | some n => .ok n
  | none => .error (.noNumeral d.kind)

/-- Data as the address of a string, behind which the end of the string is looked for. -/
def addressOf (d : Datum) : Except Fault Int := do
  let _ ← Datum.combine .plus d (.number 0)
  match d.number? with
  | some n => return n
  | none => throw (.misuse .badBound)

/-- Data as numbers of a list. -/
def numbersOf : List Datum → Except Fault (List Int)
  | [] => .ok []
  | d :: ds =>
    match d.number? with
    | some n => (numbersOf ds).map (n :: ·)
    | none => .error (.notNumber d.kind)

/-- Data as the value of a property. What is no number, text or list is shown as it is written. -/
def valueOf (d : Datum) : Except Fault Value :=
  match d, d.number? with
  | _, some n => .ok (.number n)
  | .list items, _ => (numbersOf items).map .numbers
  | d, _ => .ok (.text d.plain)

/-- Whether a formula has something in common with `value`. The formula is the name of a flag. -/
def isFlagged (value : Datum) (s : String) : Evaluation Bool := do
  let e := Evaluator.upTo vocabulary Evaluator.maxCalls
  e.holds (← e.combined .bitwiseAnd value (← Formula.evaluate vocabulary s))

/-- The names of the flags that `value` has. -/
def flagsOf (value : Datum) : List Datum → Evaluation (List String)
  | [] => return []
  | name :: names => do
    let .text s := name | throw .notName
    let isSet ← isFlagged value s
    let rest ← flagsOf value names
    return if isSet then s :: rest else rest

/-- The name of the number `value`. Numbers from the end of the names on are unknown; negative ones
count from the end. -/
def nameOf (names value : Datum) : Except Fault String := do
  if ← value.isBefore .less (.number (← names.size)) then
    return (← names.item value).plain
  return "<unknown>"

/-- The line that is asked for. -/
def line : Request → Evaluation String
  | heading text indent => do
    let n ← indentOf indent
    return Report.heading (← textOf text) n
  | quotation text indent => do
    let n ← indentOf indent
    return Report.quotation (← textOf text) n
  | property key value indent => do
    let (k, n) ← keyOf key indent
    return Report.property k (← valueOf value) n
  | flagged key value flags indent => do
    let names ← flags.members
    let flags ← flagsOf value names
    let (k, n) ← keyOf key indent
    return explained k (← shownNumber value) (String.intercalate " | " flags) n
  | named key value names indent => do
    let name ← nameOf names value
    let (k, n) ← keyOf key indent
    return explained k (← shownNumber value) name n
  | reference key address source indent => do
    if address.equals (.number noString) then
      let (k, n) ← keyOf key (.number 0)
      return Report.property k (.text "") n
    match source with
    | .other d => throw (.noStrings d.kind)
    | .installer i =>
      let text ← i.textAt (← addressOf address)
      let (k, n) ← keyOf key indent
      return located k (← shownNumber address) text n

/-- The output of a line with a memory, and the memory behind it. What its formulas print comes
before the line or its fault. -/
def output (m : Memory) (r : Request) : Output × Memory :=
  let (result, m) := r.line.run.run { m with printed := "", notices := "" }
  let errors := m.notices
  match result with
  | .ok s => ({ lines := [m.printed ++ s], errors }, m)
  | .error e => ({ unfinished := m.printed, errors, fault := some e }, m)

/-- The outputs of lines that are asked for one after the other, with a memory. -/
def outputsFrom (m : Memory) : List Request → List Output
  | [] => []
  | r :: rs =>
    let (o, m) := r.output m
    o :: outputsFrom m rs

/-- The outputs of lines that are asked for one after the other. What a formula changes stays so for
the next lines. -/
def outputs (rs : List Request) : List Output :=
  outputsFrom initialMemory rs

end Request

end Nsis.Report
