import Nsis.Installer.Basic
import Nsis.Report.Flags
import Nsis.Text.Numeral
import Nsis.Trace

/-!
# Lines of a report

A report consists of headings and properties. A property is a key, filled up to fifteen columns, and
a value, which is shown by its kind.

## Main definitions

* `Nsis.Report.Value` — the values of properties.
* `Nsis.Report.heading`, `Nsis.Report.quotation` — lines with nothing but a text.
* `Nsis.Report.property` — a property.
* `Nsis.Report.flagged`, `Nsis.Report.named` — a number with the names of its flags, or its own
  name.
* `Nsis.Report.reference` — the address of a string with its text.
-/

namespace Nsis.Report

/-- The value of a property. -/
inductive Value where
  | number (n : Int)
  | numbers (ns : List Int)
  | text (s : String)
  deriving DecidableEq, Repr

namespace Value

/-- An unsigned word. -/
def word (n : UInt32) : Value := number n.toNat

/-- A signed word. -/
def int (n : Int32) : Value := number n.toInt

end Value

/-- The columns that a key is filled up to. -/
def keyWidth : Nat := 15

/-- Indentation by `n` tabulators. -/
def tabs (n : Int) : String :=
  String.ofList (List.replicate n.toNat '\t')

/-- A key with a colon, filled up with blanks, one step further in than its heading. -/
def keyText (key : String) (indent : Int) : String :=
  let label := key ++ ": "
  tabs (indent + 1) ++ label ++ String.ofList (List.replicate (keyWidth - label.length) ' ')

/-- A heading. -/
def heading (text : String) (indent : Int) : String :=
  tabs indent ++ text

/-- A text in quotation marks. -/
def quotation (text : String) (indent : Int) : String :=
  tabs indent ++ "\"" ++ text ++ "\""

/-- A property. Numbers are shown in eight columns, lists of numbers as short as possible, and a
text in quotation marks after a second colon. -/
def property (key : String) (value : Value) (indent : Int) : String :=
  keyText key indent ++ match value with
    | .number n => Text.hexWord n
    | .numbers ns => "[" ++ String.intercalate ", " (ns.map Text.hex) ++ "]"
    | .text s => ": \"" ++ s ++ "\""

/-- A number with something that explains it. -/
def explained (key : String) (value : Int) (meaning : String) (indent : Int) : String :=
  keyText key indent ++ Text.hexWord value ++ " ( " ++ meaning ++ " )"

/-- A number with the names of its flags. -/
def flagged (key : String) (value : Int) (flags : List Flag) (indent : Int) : String :=
  explained key value
    (String.intercalate " | " ((flags.filter (·.isSet value)).map (·.name))) indent

/-- A number with its own name. Numbers from the end of the list on are unknown; negative ones count
from the end. -/
def named (key : String) (value : Int) (names : List String) (indent : Int) :
    Except Fault String :=
  if (names.length : Int) ≤ value then .ok (explained key value "<unknown>" indent)
  else (Signed.item names value).map fun name => explained key value name indent

/-- The address that stands for no string. -/
def noString : Int := 0xffffffff

/-- The address of a string with the text that stands there. -/
def located (key : String) (address : Int) (text : String) (indent : Int) : String :=
  keyText key indent ++ text ++ " @ " ++ Text.hexWord address

/-- The address of a string with its text; where there is none, an empty property at the outermost
level. -/
def reference (i : Installer) (key : String) (address : Int) (indent : Int) :
    Except Fault String := do
  if address = noString then return property key (.text "") 0
  let text ← i.textAt address
  return located key address text indent

end Nsis.Report
