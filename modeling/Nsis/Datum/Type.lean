import Nsis.Datum.Items

/-!
# Types of data

Every datum has a type, and a type belongs to others that are more general. Types that formulas know
by their names are told from those that have parts of their own.

## Main definitions

* `Nsis.Datum.typeOf` — the type of data.
* `Nsis.Datum.ancestors` — the types that a type belongs to.
* `Nsis.Datum.isOfType` — whether data are of a type.
-/

namespace Nsis.Datum

/-- The types of faults that belong to a more general type of faults. -/
def faultBases : List (String × String) := [
  ("Exception", "BaseException"), ("GeneratorExit", "BaseException"),
  ("KeyboardInterrupt", "BaseException"), ("SystemExit", "BaseException"),
  ("BaseExceptionGroup", "BaseException"), ("ArithmeticError", "Exception"),
  ("FloatingPointError", "ArithmeticError"), ("OverflowError", "ArithmeticError"),
  ("ZeroDivisionError", "ArithmeticError"), ("AssertionError", "Exception"),
  ("AttributeError", "Exception"), ("BufferError", "Exception"), ("EOFError", "Exception"),
  ("ImportError", "Exception"), ("ModuleNotFoundError", "ImportError"),
  ("LookupError", "Exception"), ("IndexError", "LookupError"), ("KeyError", "LookupError"),
  ("MemoryError", "Exception"), ("NameError", "Exception"), ("UnboundLocalError", "NameError"),
  ("OSError", "Exception"), ("BlockingIOError", "OSError"), ("ChildProcessError", "OSError"),
  ("ConnectionError", "OSError"), ("BrokenPipeError", "ConnectionError"),
  ("ConnectionAbortedError", "ConnectionError"), ("ConnectionRefusedError", "ConnectionError"),
  ("ConnectionResetError", "ConnectionError"), ("FileExistsError", "OSError"),
  ("FileNotFoundError", "OSError"), ("InterruptedError", "OSError"),
  ("IsADirectoryError", "OSError"), ("NotADirectoryError", "OSError"),
  ("PermissionError", "OSError"), ("ProcessLookupError", "OSError"), ("TimeoutError", "OSError"),
  ("ReferenceError", "Exception"), ("RuntimeError", "Exception"),
  ("NotImplementedError", "RuntimeError"), ("RecursionError", "RuntimeError"),
  ("StopAsyncIteration", "Exception"), ("StopIteration", "Exception"),
  ("SyntaxError", "Exception"), ("IndentationError", "SyntaxError"),
  ("TabError", "IndentationError"), ("SystemError", "Exception"), ("TypeError", "Exception"),
  ("ValueError", "Exception"), ("UnicodeError", "ValueError"),
  ("UnicodeDecodeError", "UnicodeError"), ("UnicodeEncodeError", "UnicodeError"),
  ("UnicodeTranslateError", "UnicodeError"), ("Warning", "Exception"),
  ("BytesWarning", "Warning"), ("DeprecationWarning", "Warning"), ("EncodingWarning", "Warning"),
  ("FutureWarning", "Warning"), ("ImportWarning", "Warning"),
  ("PendingDeprecationWarning", "Warning"), ("ResourceWarning", "Warning"),
  ("RuntimeWarning", "Warning"), ("SyntaxWarning", "Warning"), ("UnicodeWarning", "Warning"),
  ("UserWarning", "Warning"), ("ExceptionGroup", "BaseExceptionGroup"),
  ("struct.error", "Exception"), ("zlib.error", "Exception")]

/-- The more general type that a common type belongs to, if it is not the most general one. -/
def base? (name : String) : Option String :=
  if name = "object" then none
  else if name = "bool" then some "int"
  else some ((faultBases.lookup name).getD "object")

/-- The names of the types that a common type belongs to, itself first. -/
def lineage : (fuel : Nat) → String → List String
  | 0, name => [name]
  | fuel + 1, name =>
    match base? name with
    | some b => name :: lineage fuel b
    | none => [name]

/-- How many types there are above one another at most. -/
def maxLineage : Nat := 8

/-- Types without those that come again later. -/
def lastOnes : List Datum → List Datum
  | [] => []
  | t :: ts => if ts.any (equals t) then lastOnes ts else t :: lastOnes ts

/-- The types that a type belongs to, itself first, as far as they are looked for. -/
def ancestorsWithin : (fuel : Nat) → Datum → List Datum
  | 0, t => [t]
  | fuel + 1, t =>
    match t with
    | type name => (lineage maxLineage name).map type
    | thing _ _ parts =>
      match parts.lookup "__bases__" with
      | some (tuple bases) => t :: lastOnes (bases.flatMap (ancestorsWithin fuel))
      | _ => [t, type "object"]
    | d => [d]

/-- The types that a type belongs to, itself first. -/
def ancestors (t : Datum) : List Datum :=
  ancestorsWithin maxLineage t

/-- A part that a type has or gets from a type that it belongs to. -/
def classPart? (t : Datum) (name : String) : Option Datum :=
  t.ancestors.findSome? fun
    | thing _ _ parts => parts.lookup name
    | _ => none

/-- The type of data. -/
def typeOf (d : Datum) : Datum :=
  match d with
  | entry t _ _ => t
  | thing kind _ parts => (parts.lookup "__class__").getD (type kind)
  | d => type d.kind.name

/-- Whether data are a type. -/
def isType : Datum → Bool
  | type _ | thing "type" _ _ => true
  | _ => false

/-- Whether a type belongs to another one. -/
def isSubtype (s t : Datum) : Bool :=
  s.ancestors.any (equals t)

mutual

/-- Whether something holds for a type, or for one of several types. The first one for which it
holds ends it. -/
def anyType (refused : Bool → Fault) (holds : Datum → Bool) : Datum → Except Fault Bool
  | tuple types => anyOfTypes refused holds types
  | thing "types.UnionType" _ parts => anyOfParts refused holds parts
  | t =>
    if t.isType then .ok (holds t)
    else .error (refused (t.kind = .other "types.GenericAlias"))

/-- Whether something holds for one of some types. -/
def anyOfTypes (refused : Bool → Fault) (holds : Datum → Bool) : List Datum → Except Fault Bool
  | [] => .ok false
  | t :: types => do
    if ← anyType refused holds t then return true
    anyOfTypes refused holds types

/-- Whether something holds for one of the types among some parts. -/
def anyOfParts (refused : Bool → Fault) (holds : Datum → Bool) :
    List (String × Datum) → Except Fault Bool
  | [] => .ok false
  | (_, t) :: parts => do
    if ← anyType refused holds t then return true
    anyOfParts refused holds parts

end

/-- Whether data are of a type, or of one of several types. -/
def isOfType (d : Datum) (types : Datum) : Except Fault Bool :=
  anyType (fun isItemised => .misuse (.notType isItemised)) (isSubtype d.typeOf) types

end Nsis.Datum
