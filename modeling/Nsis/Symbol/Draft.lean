import Nsis.Datum.Function
import Nsis.Symbol.Basic

/-!
# Drafts of symbols

A symbol can be asked for with data from outside. A draft keeps the data as they are; whether they
fit shows when the draft is written or asked about its kind.

## Main definitions

* `Nsis.Symbol.Draft` — symbols with any data in the place of numbers.
* `Nsis.Symbol.Draft.ofArguments` — the draft of a kind from a list of data.
* `Nsis.Symbol.Draft.text`, `Nsis.Symbol.Draft.traits` — what symbols have, where the data fit.
* `Nsis.Symbol.draft` — a symbol as a draft.
-/

namespace Nsis.Symbol

/-- The kinds of symbols, and the one of which nothing is known. -/
inductive Kind where
  | var
  | lang
  | shell
  | literal
  | plain
  deriving DecidableEq, Repr

/-- A symbol with any data in the place of numbers. -/
inductive Draft where
  | var (number : Datum)
  | lang (number : Datum)
  | shell (first second : Datum)
  | literal (text : String)
  /-- A symbol without a text. -/
  | plain

namespace Draft

/-- The fault of a wrong number of arguments for a symbol with parameters. The symbol itself counts
as an argument. -/
def countFault (maker : String) (parameters : List String) (given : List Datum) : Fault :=
  let wanted := parameters.length + 1
  if given.length + 1 < wanted then
    .misuse (.count maker (.without (parameters.drop given.length)))
  else .misuse (.count maker (.between wanted wanted (given.length + 1) 0))

/-- The draft of a kind from a list of data. -/
def ofArguments (k : Kind) (args : List Datum) : Except Fault Draft :=
  match k, args with
  | .var, [d] => .ok (var d)
  | .var, ds => .error (countFault "NVar.__init__" ["nvar"] ds)
  | .lang, [d] => .ok (lang d)
  | .lang, ds => .error (countFault "LangCode.__init__" ["nlang"] ds)
  | .shell, [d, e] => .ok (shell d e)
  | .shell, ds => .error (countFault "Shell.__init__" ["param1", "param2"] ds)
  | .literal, ds => do
    let d ← Datum.callType "str" { plain := ds }
    return literal d.plain
  | .plain, [] => .ok plain
  | .plain, _ :: _ => .error (.misuse (.noArguments "Symbol"))

/-- Whether data are a number below another one. -/
def isBelow (d : Datum) (n : Int) : Except Fault Bool :=
  d.isBefore .less (.number n)

/-- How a variable with any data as its number is written. -/
def varText (d : Datum) : Except Fault String := do
  let key ← d.asKey
  match systemVariables.find? fun (n, _) => key.equals (.number n) with
  | some (_, name) => return "$" ++ name
  | none =>
    if ← isBelow d 10 then return "$" ++ d.plain
    if ← isBelow d 20 then return "$R" ++ (← Datum.combine .minus d (.number 10)).plain
    return "$__var" ++ d.plain ++ "__"

/-- How a draft is written; one of no known kind is not. -/
def text : Draft → Except Fault (Option String)
  | var d => some <$> varText d
  | lang d => .ok (some ("$(LangString" ++ d.plain ++ ")"))
  | shell d e => .ok (some ("$__SHELL_" ++ d.plain ++ "_" ++ e.plain ++ "__"))
  | literal s => .ok (some s)
  | plain => .ok none

/-- What a draft answers about its kind. -/
def traits : Draft → Except Fault Traits
  | var d => do
    let isRegister ← isBelow d 20
    let isNamed ← d.isBefore .greaterEqual (.number 20)
    return { isVar := true, isRegister, isNamed }
  | lang _ => .ok { isLang := true }
  | shell _ _ => .ok { isShell := true }
  | literal _ => .ok { isLiteral := true }
  | plain => .ok {}

end Draft

/-- A symbol as a draft. -/
def draft : Symbol → Draft
  | var n => .var (.number n)
  | lang n => .lang (.number n)
  | shell a b => .shell (.number a) (.number b)
  | literal s => .literal s

end Nsis.Symbol
