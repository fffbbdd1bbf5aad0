import Nsis.Text.Numeral

/-!
# String symbols

An installer's string is a sequence of symbols: variables, references to a language table, shell
folders, and literal text.

## Main definitions

* `Nsis.Symbol` — the symbols.
* `Nsis.Symbol.text` — how a symbol is written.
* `Nsis.Symbol.traits` — which questions about its kind a symbol answers with yes.
* `Nsis.systemVariables` — the variables that have a name of their own.
-/

namespace Nsis

/-- The variables with a name of their own: their number and their name. -/
def systemVariables : List (Int × String) := [
  (20, "COMMANDLINE"), (21, "INSTALLDIR"), (22, "OUTPUTDIR"), (23, "EXEDIR"), (24, "LANGUAGE"),
  (25, "TEMPDIR"), (26, "PLUGINSDIR"), (27, "EXEPATH"), (28, "EXEFILE"), (29, "HWNDPARENT"),
  (30, "CLICKNEXT")]

/-- A symbol of an installer's string. -/
inductive Symbol where
  /-- The variable with this number. Numbers below 20 are the registers. -/
  | var (number : Int)
  /-- An entry of the language table. -/
  | lang (number : Int)
  /-- A folder of the shell, by its two identifiers. -/
  | shell (first second : Int)
  /-- A piece of text. -/
  | literal (text : String)
  deriving DecidableEq, Repr

namespace Symbol

/-- How a variable is written: by its name if it has one, else as one of the registers `$0` … `$9`,
`$R0` … `$R9`, else by its number. -/
def varText (n : Int) : String :=
  match systemVariables.lookup n with
  | some name => "$" ++ name
  | none =>
    if n < 10 then "$" ++ Text.decimal n
    else if n < 20 then "$R" ++ Text.decimal (n - 10)
    else "$__var" ++ Text.decimal n ++ "__"

/-- How a symbol is written. -/
def text : Symbol → String
  | var n => varText n
  | lang n => "$(LangString" ++ Text.decimal n ++ ")"
  | shell a b => "$__SHELL_" ++ Text.decimal a ++ "_" ++ Text.decimal b ++ "__"
  | literal s => s

/-- How a sequence of symbols is written: their texts one after the other. -/
def textOf (symbols : List Symbol) : String :=
  String.join (symbols.map text)

/-- The questions about a symbol's kind. A symbol of no known kind answers all of them with no. -/
structure Traits where
  isRegister : Bool := false
  isNamed : Bool := false
  isVar : Bool := false
  isLang : Bool := false
  isShell : Bool := false
  isLiteral : Bool := false
  deriving DecidableEq, Repr

/-- What a symbol answers about its kind. A variable is a register below number 20 and a named one
from there on. -/
def traits : Symbol → Traits
  | var n => { isVar := true, isRegister := n < 20, isNamed := 20 ≤ n }
  | lang _ => { isLang := true }
  | shell _ _ => { isShell := true }
  | literal _ => { isLiteral := true }

end Symbol

end Nsis
