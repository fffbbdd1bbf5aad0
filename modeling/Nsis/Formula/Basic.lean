import Nsis.Bytes
import Nsis.Formula.Operation

/-!
# Formulas

A formula combines values and names by operations, relations, choices, calls and groups.

## Main definitions

* `Nsis.Pattern` — what gets the items of a group as values.
* `Nsis.Parameters` — the parameters of a function.
* `Nsis.Formula` — formulas.
* `Nsis.Formula.title` — what a formula is called in faults.
-/

namespace Nsis

/-- The groups that a formula can collect items in. -/
inductive Grouping where
  | series
  | list
  | set
  | record
  deriving DecidableEq, Repr

/-- What a clause gives names to. -/
inductive Pattern where
  /-- An item. -/
  | name (s : String)
  /-- The items of an item. -/
  | several (ps : List Pattern)
  /-- The items that the patterns beside it leave over. -/
  | rest (p : Pattern)

mutual

/-- The names in a pattern. -/
def Pattern.names : Pattern → List String
  | .name s => [s]
  | .several ps => Pattern.namesOf ps
  | .rest p => p.names

/-- The names in patterns. -/
def Pattern.namesOf : List Pattern → List String
  | [] => []
  | p :: ps => p.names ++ Pattern.namesOf ps

end

/-- The parameters of a function. -/
structure Parameters where
  /-- Those that take the arguments without a name, in turn. -/
  plain : List String := []
  /-- How many of these a call cannot name. -/
  unnamed : Nat := 0
  /-- What takes the arguments without a name that are left over. -/
  rest : Option String := none
  /-- Those that only take arguments with their name. -/
  labelled : List String := []
  /-- What takes the arguments with a name that are left over. -/
  record : Option String := none
  deriving Inhabited

/-- The names of all parameters. -/
def Parameters.names (p : Parameters) : List String :=
  p.plain ++ p.labelled ++ p.rest.toList ++ p.record.toList

/-- Formulas. -/
inductive Formula where
  | absent
  | truth (b : Bool)
  | number (n : Nat)
  /-- The number `mantissa · 10 ^ exponent`. -/
  | fraction (mantissa : Nat) (exponent : Int)
  /-- A number times the root of minus one. -/
  | imaginary (mantissa : Nat) (exponent : Int)
  | text (s : String)
  | bytes (b : Bytes)
  /-- A text with the values of formulas in it. -/
  | template (parts : List Formula)
  /-- A value in a text, after a letter's conversion and in a format. -/
  | field (f : Formula) (conversion : Option Char) (format : List Formula)
  /-- Three points. -/
  | ellipsis
  | name (s : String)
  | signed (o : Operation.Unary) (f : Formula)
  | denied (f : Formula)
  | combined (o : Operation) (f g : Formula)
  /-- The first of some values that does not hold, else the last one. -/
  | every (fs : List Formula)
  /-- The first of some values that holds, else the last one. -/
  | any (fs : List Formula)
  /-- Values each of which is in relation to the next one. -/
  | related (f : Formula) (links : List (Relation × Formula))
  | choice (condition yes no : Formula)
  | tuple (items : List Formula)
  | list (items : List Formula)
  | set (items : List Formula)
  /-- A record, from pairs and other records behind two stars. -/
  | record (items : List Formula)
  /-- A key and its value. -/
  | pair (key value : Formula)
  /-- All items of a group, behind a star. -/
  | starred (f : Formula)
  /-- All items of a record, behind two stars. -/
  | doubleStarred (f : Formula)
  /-- An argument with a name. -/
  | labelled (label : String) (f : Formula)
  /-- A value that gets a name. -/
  | named (label : String) (f : Formula)
  | part (f : Formula) (label : String)
  | call (f : Formula) (arguments : List Formula)
  | item (f index : Formula)
  /-- The items from a position on, up to another one, in steps. -/
  | slice (start stop step : Option Formula)
  /-- A function; some parameters may have defaults. -/
  | function (parameters : Parameters) (defaults : List (String × Formula)) (body : Formula)
  /-- An item for each way to go through the clauses, which are sources of variables and
  conditions. -/
  | gathered (grouping : Grouping) (item : Formula) (clauses : List Formula)
  /-- A clause that lets variables run through the items of a group. -/
  | each (pattern : Pattern) (source : Formula)
  /-- A clause that is a condition. -/
  | provided (condition : Formula)
  deriving Inhabited

namespace Formula

/-- What a formula is called in faults. -/
def title : Formula → String
  | absent => "None"
  | truth b => if b then "True" else "False"
  | number _ | fraction _ _ | imaginary _ _ | text _ | bytes _ => "literal"
  | template _ | field _ _ _ => "f-string expression"
  | ellipsis => "ellipsis"
  | name _ => "name"
  | signed _ _ | denied _ | combined _ _ _ | every _ | any _ => "expression"
  | related _ _ => "comparison"
  | choice _ _ _ => "conditional expression"
  | tuple _ => "tuple"
  | list _ => "list"
  | set _ => "set display"
  | record _ | pair _ _ => "dict literal"
  | starred _ | doubleStarred _ => "starred"
  | labelled _ _ | named _ _ => "named expression"
  | part _ _ => "attribute"
  | call _ _ => "function call"
  | item _ _ | slice _ _ _ => "subscript"
  | function _ _ _ => "lambda"
  | gathered .series _ _ => "generator expression"
  | gathered .list _ _ => "list comprehension"
  | gathered .set _ _ => "set comprehension"
  | gathered .record _ _ => "dict comprehension"
  | each _ _ | provided _ => "expression"

/-- Whether a formula can stand before a single equals sign where a relation is meant. -/
def mayBeEquated : Formula → Bool
  | absent | truth _ | tuple _ | list _ | gathered .series _ _ => false
  | denied _ | every _ | any _ | related _ _ | choice _ _ _ | function _ _ _ => false
  | _ => true

end Formula

end Nsis
