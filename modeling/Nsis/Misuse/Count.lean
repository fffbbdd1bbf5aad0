import Nsis.Misuse.Family

/-!
# Numbers of arguments

What is wrong with the number of arguments of a call.

## Main definitions

* `Nsis.Misuse.Count` — the causes.
* `Nsis.Misuse.Count.message` — the wording of each.
-/

namespace Nsis.Misuse

/-- What is wrong with the number of arguments of a call. -/
inductive Count where
  /-- One argument is needed. -/
  | exactlyOne (given : Nat)
  /-- A number of arguments is needed. -/
  | exactly (wanted given : Nat)
  | atLeast (wanted given : Nat)
  | atMost (wanted given : Nat)
  /-- At least one argument without a name is needed. -/
  | atLeastPlain (wanted given : Nat)
  | takesAtMost (wanted given : Nat)
  | takesAtMostPlain (wanted given : Nat)
  /-- Too many arguments that all have names. -/
  | takesAtMostLabelled (wanted given : Nat)
  | takesAtLeast (wanted given : Nat)
  /-- An argument at a place is missing. -/
  | missing (name : String) (place : Nat)
  | noneTaken (given : Nat)
  /-- A function of a formula takes between two numbers of arguments; some more may have been given
  by their names. -/
  | between (low high given labelled : Nat)
  /-- Parameters of a function without an argument. -/
  | without (parameters : List String)
  /-- Parameters of a function that only take arguments with their name, without one. -/
  | withoutLabelled (parameters : List String)
  deriving DecidableEq, Repr

/-- A number of arguments in words. -/
def arguments (n : Nat) : String :=
  Text.decimal n ++ if n = 1 then " argument" else " arguments"

/-- Names in a row, with a word before the last one. -/
def inRow (names : List String) : String :=
  match names.map fun s => "'" ++ s ++ "'" with
  | [] => ""
  | [a] => a
  | [a, b] => a ++ " and " ++ b
  | names => String.intercalate ", " names.dropLast ++ ", and " ++ names.getLastD ""

/-- That parameters of a kind have no argument. -/
def missingOf (kind : String) (parameters : List String) : String :=
  "() missing " ++ Text.decimal parameters.length ++ " required " ++ kind ++ " argument"
    ++ (if parameters.length = 1 then ": " else "s: ") ++ inRow parameters

/-- What is wrong with the number of arguments of a function. -/
def Count.message (f : String) : Count → String
  | exactlyOne given =>
    f ++ "() takes exactly one argument (" ++ Text.decimal given ++ " given)"
  | exactly wanted given =>
    f ++ " expected " ++ arguments wanted ++ ", got " ++ Text.decimal given
  | atLeast wanted given =>
    f ++ " expected at least " ++ arguments wanted ++ ", got " ++ Text.decimal given
  | atMost wanted given =>
    f ++ " expected at most " ++ arguments wanted ++ ", got " ++ Text.decimal given
  | atLeastPlain wanted given =>
    f ++ "() takes at least " ++ Text.decimal wanted ++ " positional argument ("
      ++ Text.decimal given ++ " given)"
  | takesAtMost wanted given =>
    f ++ "() takes at most " ++ arguments wanted ++ " (" ++ Text.decimal given ++ " given)"
  | takesAtMostPlain wanted given =>
    f ++ "() takes at most " ++ Text.decimal wanted ++ " positional arguments ("
      ++ Text.decimal given ++ " given)"
  | takesAtMostLabelled wanted given =>
    f ++ "() takes at most " ++ Text.decimal wanted ++ " keyword argument"
      ++ (if wanted = 1 then "" else "s") ++ " (" ++ Text.decimal given ++ " given)"
  | takesAtLeast wanted given =>
    f ++ "() takes at least " ++ arguments wanted ++ " (" ++ Text.decimal given ++ " given)"
  | missing name place =>
    f ++ "() missing required argument '" ++ name ++ "' (pos " ++ Text.decimal place ++ ")"
  | noneTaken given => f ++ "() takes no arguments (" ++ Text.decimal given ++ " given)"
  | between low high given labelled =>
    f ++ "() takes " ++ (if low = high then "" else "from " ++ Text.decimal low ++ " to ")
      ++ Text.decimal high ++ " positional argument"
      ++ (if high = 1 && low = 1 then "" else "s") ++ " but " ++ Text.decimal given
      ++ (if labelled = 0 then ""
        else " positional argument" ++ (if given = 1 then "" else "s") ++ " (and "
          ++ Text.decimal labelled ++ " keyword-only argument"
          ++ if labelled = 1 then ")" else "s)")
      ++ if given = 1 && labelled = 0 then " was given" else " were given"
  | without parameters => f ++ missingOf "positional" parameters
  | withoutLabelled parameters => f ++ missingOf "keyword-only" parameters

end Nsis.Misuse
