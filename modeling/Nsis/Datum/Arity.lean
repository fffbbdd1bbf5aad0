import Nsis.Datum.Part

/-!
# Arguments of calls

A function takes some numbers of arguments, and says how many where they are too few or too many.

## Main definitions

* `Nsis.Datum.Arguments` — the arguments of a call.
* `Nsis.Datum.Arity` — how many arguments a function takes.
* `Nsis.Datum.methodArity?` — how many arguments the functions of data take.
* `Nsis.Datum.ordered` — the arguments of a function in the order of their names.
-/

namespace Nsis.Datum

/-- The arguments of a call: those without a name and those with one. -/
structure Arguments where
  plain : List Datum
  labelled : List (String × Datum) := []

/-- The fault of a wrong number of arguments. -/
def countFault (function : String) (c : Misuse.Count) : Fault :=
  .misuse (.count function c)

/-- How many arguments a function takes. -/
inductive Arity where
  | none
  | one
  /-- Between two numbers. -/
  | between (low high : Nat)
  /-- What is looked for, and where to begin and to end. -/
  | search
  deriving DecidableEq, Repr

namespace Arity

/-- Refuse too few or too many arguments of a function of a type. -/
def check (type name : String) (given : Nat) : Arity → Except Fault Unit
  | none =>
    if given = 0 then .ok () else .error (countFault (type ++ "." ++ name) (.noneTaken given))
  | one =>
    if given = 1 then .ok () else .error (countFault (type ++ "." ++ name) (.exactlyOne given))
  | between low high =>
    if low ≤ given && given ≤ high then .ok ()
    else if low = high then .error (countFault name (.exactly low given))
    else if given < low then .error (countFault name (.atLeast low given))
    else .error (countFault name (.atMost high given))
  | search =>
    if given = 0 then .error (countFault name (.takesAtLeast 1 0))
    else if 3 < given then .error (countFault name (.takesAtMost 3 given))
    else .ok ()

end Arity

/-- How many arguments the functions of texts and byte strings take. -/
def textArity? (name : String) : Option Arity :=
  if ["upper", "lower", "capitalize", "title", "swapcase", "casefold", "isalnum", "isalpha",
    "isascii", "isdecimal", "isdigit", "isidentifier", "islower", "isnumeric", "isprintable",
    "isspace", "istitle", "isupper"].contains name then some .none
  else if ["join", "zfill", "partition", "rpartition", "removeprefix", "removesuffix",
    "format_map"].contains name then some .one
  else if name = "maketrans" then some (.between 1 3)
  else if ["find", "rfind", "index", "rindex", "count", "startswith", "endswith"].contains name then
    some .search
  else if ["strip", "lstrip", "rstrip"].contains name then some (.between 0 1)
  else if name = "replace" then some (.between 2 3)
  else if ["center", "ljust", "rjust"].contains name then some (.between 1 2)
  else none

/-- How many arguments the functions of groups take. -/
def groupArity? (k : Kind) (name : String) : Option Arity :=
  match k with
  | .list =>
    if ["append", "extend", "remove", "count"].contains name then some .one
    else if ["copy", "clear", "reverse"].contains name then some .none
    else if name = "index" then some (.between 1 3)
    else if name = "pop" then some (.between 0 1)
    else if name = "insert" then some (.between 2 2)
    else none
  | .tuple => if name = "count" then some .one else some (.between 1 3)
  | .range => some .one
  | .record =>
    if ["keys", "values", "items", "copy", "clear", "popitem"].contains name then some .none
    else if ["get", "pop", "setdefault", "fromkeys"].contains name then some (.between 1 2)
    else if name = "update" then some (.between 0 1)
    else none
  | .set =>
    if ["add", "remove", "discard", "issubset", "issuperset", "isdisjoint",
      "symmetric_difference", "symmetric_difference_update"].contains name then some .one
    else if ["copy", "clear", "pop"].contains name then some .none
    else none
  | _ => none

/-- How many arguments a function of data of a kind takes, where that is fixed. -/
def methodArity? (k : Kind) (name : String) : Option Arity :=
  match k with
  | .text | .bytes | .other "bytearray" => textArity? name
  | .number | .truth =>
    if ["bit_length", "bit_count", "conjugate", "as_integer_ratio"].contains name then some .none
    else none
  | .fraction | .complex =>
    if ["is_integer", "hex", "conjugate", "as_integer_ratio"].contains name then some .none
    else none
  | k => groupArity? k name

/-- Data as a whole number. -/
def wholeOf (d : Datum) : Except Fault Int :=
  match d.number? with
  | some n => .ok n
  | none => .error (.notNumber d.kind)

/-! ### Arguments with names -/

/-- Refuse named arguments. -/
def unlabelled (function : String) (a : Arguments) : Except Fault (List Datum) :=
  if a.labelled.isEmpty then .ok a.plain else .error (.misuse (.noLabels function))

/-- The single argument of a function. -/
def single (function : String) (a : Arguments) : Except Fault Datum := do
  match ← unlabelled function a with
  | [d] => return d
  | ds => throw (countFault function (.exactlyOne ds.length))

/-- At most one argument of a type. -/
def optional (type : String) (a : Arguments) : Except Fault (Option Datum) := do
  match ← unlabelled type a with
  | [] => return none
  | [d] => return some d
  | ds => throw (countFault type (.atMost 1 ds.length))

/-- Refuse named arguments other than those given. -/
def onlyLabels (function : String) (labels : List String) (a : Arguments) : Except Fault Unit :=
  match a.labelled.find? fun (label, _) => !labels.contains label with
  | some (label, _) => .error (.misuse (.badLabel function label))
  | none => .ok ()

/-- Refuse too many arguments, too few ones without a name, a missing one, and names other than
those given, in this order. The first `required` names need an argument, and the first `alone` of
them one without a name. -/
def onlyNamed (function : String) (labels : List String) (alone required : Nat) (a : Arguments) :
    Except Fault Unit := do
  let given := a.plain.length
  let all := given + a.labelled.length
  if labels.length < all then
    throw (countFault function (if given = 0 then .takesAtMostLabelled labels.length all
      else .takesAtMost labels.length all))
  if given < alone then throw (countFault function (.atLeastPlain alone given))
  let missing := ((labels.take required).drop given).find? fun s => (a.labelled.lookup s).isNone
  if let some s := missing then
    throw (countFault function (.missing s ((labels.idxOf? s).getD 0 + 1)))
  let isDouble := fun (s : String) => (labels.take given).contains s
  if let some (s, _) := a.labelled.find? fun (s, _) => isDouble s then
    throw (.misuse (.doubleArgument function s ((labels.idxOf? s).getD 0 + 1)))
  onlyLabels function (labels.drop alone) a

/-- Refuse too few or too many arguments. -/
def between (function : String) (low high : Nat) (ds : List Datum) : Except Fault (List Datum) := do
  Arity.check "" function ds.length (.between low high)
  return ds

/-- The arguments of a function in the order of their names, some of which may be missing. -/
def ordered (function : String) (labels : List String) (alone required : Nat) (a : Arguments) :
    Except Fault (List (Option Datum)) := do
  onlyNamed function labels alone required a
  return labels.mapIdx fun i s => a.plain[i]?.orElse fun _ => a.labelled.lookup s

/-- The functions of data that take arguments with names. -/
def labelledMethods : List String := [
  "encode", "split", "rsplit", "splitlines", "expandtabs", "format", "decode", "hex", "to_bytes",
  "from_bytes", "sort", "unpack_from", "update", "_replace"]

end Nsis.Datum
