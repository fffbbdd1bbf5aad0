import Nsis.Formula.Method
import Nsis.Formula.Source

/-!
# Calls

What a call gives: of a function that a formula defines, of one that every formula knows, of a type,
or of an operation of the formula's subject.

## Main definitions

* `Nsis.Vocabulary` — what formulas know.
* `Nsis.Evaluator.callFunction` — the value of a function that a formula defines.
* `Nsis.Evaluator.callKnown` — the value of a function that every formula knows.
* `Nsis.Evaluator.callType` — what a common type makes of its arguments.
* `Nsis.Evaluator.called` — the value of a call.
-/

namespace Nsis

/-- What formulas know besides the names in their memory: the operations of their subject, and what
they can import. -/
structure Vocabulary where
  /-- The value of an operation whose parameters have values. -/
  operate (e : Evaluator) (name : String) (bound : Names) : Evaluation Datum
  /-- The address of the modules by their names. -/
  modules : Nat

namespace Evaluator

open Evaluation

variable (e : Evaluator) (known : Vocabulary)

/-! ### Functions of formulas -/

/-- The value of a function that a formula defines, which has variables of its own. -/
def callFunction (title : String) (p : Parameters) (defaults : Names) (body : Formula)
    (locals : List String) (frames : List Nat) (world : Nat) (a : Datum.Arguments) :
    Evaluation Datum := do
  let bound ← p.bind title defaults a
  let own ← p.names.mapM fun s => do
    match bound.lookup s with
    | some d => return (s, some (← stored d))
    | none => return (s, none)
  let others := (locals.filter (!p.names.contains ·)).map fun s => (s, none)
  let address ← frame (own ++ others)
  e.value { frames := address :: frames, home := some address, world,
            place := title ++ ".<locals>." } body

/-! ### Known functions -/

/-- A text between or behind what is printed, or the usual one. -/
def printedMark (a : Datum.Arguments) (label usual : String) : Evaluation String := do
  match a.labelled.lookup label with
  | none | some .absent => return usual
  | some (.text s) => return s
  | some d => throw (.misuse (.notMark label (← opened d).kind))

/-- Print the arguments of a call with something between them and behind them. -/
def print (a : Datum.Arguments) : Evaluation Datum := do
  Datum.onlyLabels "print" ["sep", "end", "file", "flush"] a
  let between ← printedMark a "sep" " "
  let behind ← printedMark a "end" "\n"
  let words ← a.plain.mapM e.written
  modify fun m => { m with printed := m.printed ++ between.intercalate words ++ behind }
  return .absent

/-- The value of a function that asks for, gives or takes away parts. -/
def callPartFunction? (name : String) (a : Datum.Arguments) : Option (Evaluation Datum) :=
  match name with
  | "getattr" => some do
    match ← Datum.between name 2 3 (← Datum.unlabelled name a) with
    | d :: s :: rest => e.partOr d (← partName s) rest.head?
    | _ => return .absent
  | "hasattr" => some do
    match ← Datum.between name 2 2 (← Datum.unlabelled name a) with
    | [d, s] => return .truth (← e.hasPart d (← partName s))
    | _ => return .absent
  | "setattr" => some do
    match ← Datum.between name 3 3 (← Datum.unlabelled name a) with
    | [d, s, p] =>
      e.setPart d (← partName s) p
      return .absent
    | _ => return .absent
  | "delattr" => some do
    match ← Datum.between name 2 2 (← Datum.unlabelled name a) with
    | [d, s] =>
      dropPart d (← partName s)
      return .absent
    | _ => return .absent
  | _ => none

/-- The value of a function that writes data. -/
def callTextFunction? (name : String) (a : Datum.Arguments) : Option (Evaluation Datum) :=
  match name with
  | "repr" => some do return .text (← e.shown (← Datum.single name a))
  | "ascii" => some do return .text (Text.inAscii (← e.shown (← Datum.single name a)))
  | "format" => some do
    match ← Datum.between name 1 2 (← Datum.unlabelled name a) with
    | [d] => return .text (← e.formatted d "")
    | d :: f :: _ =>
      match f with
      | .text f => return .text (← e.formatted d f)
      | f =>
        let k := (← opened f).kind
        throw (.misuse (.argumentKind name (some 2) "" "str" k))
    | [] => return .absent
  | "print" => some (e.print a)
  | _ => none

/-- A number that tells data from others. -/
def identity (d : Datum) : Int :=
  match d with
  | .shared a => 0x7f0000000000 + 48 * a
  | d => Int.emod d.hashNumber 0x7fffffffffff

/-- The functions that the own types of data can have in the place of known ones. -/
def ownFunctions : List (String × String) := [
  ("abs", "__abs__"), ("hash", "__hash__"), ("round", "__round__"), ("divmod", "__divmod__"),
  ("pow", "__pow__")]

/-- The value of a known function for settled arguments. -/
def callPure (name : String) (a : Datum.Arguments) : Evaluation Datum := do
  let plain ← a.plain.mapM fun d => settled d
  let labelled ← a.labelled.mapM fun (s, d) => do return (s, ← settled d)
  stored (← Datum.callBuiltin name { plain, labelled })

/-- The module with a name. -/
def imported (a : Datum.Arguments) : Evaluation Datum := do
  match a.plain with
  | .text s :: _ =>
    match ← entryAt? known.modules s with
    | some d => return d
    | none => throw (.misuse (.missingModule s))
  | d :: _ => throw (.misuse (.noModule (← opened d).kind))
  | [] => throw (Datum.countFault "__import__" (.missing "name" 1))

/-- The value of a function that every formula knows. -/
def callKnown (name : String) (a : Datum.Arguments) : Evaluation Datum := do
  let found := (e.callGroupFunction? name a).orElse fun _ =>
    (e.callPartFunction? name a).orElse fun _ =>
    (e.callTextFunction? name a).orElse fun _ =>
    if scopedNames.contains name then some (e.callScoped {} name a) else none
  match found with
  | some r => r
  | none =>
    match name, a.plain with
    | "id", _ => return .number (identity (← Datum.single name a))
    | "callable", _ => return .truth (← opened (← Datum.single name a)).isCallable
    | "__import__", _ => imported known a
    | "pack_into", [] => throw (.misuse (.packing .noLayoutGiven))
    | "pack_into", format :: args => packInto (← Datum.Layout.ofDatum (← opened format)) args
    | "open", .text s :: _ =>
      let path := Text.quoted s
      throw (.misuse (.raised "FileNotFoundError"
        ("[Errno 2] No such file or directory: " ++ path)))
    | name, d :: rest =>
      match ← (match ownFunctions.lookup name with
        | some own => e.callOwn? d own rest
        | none => pure none) with
      | some r => return r
      | none => callPure name a
    | name, [] => callPure name a

/-- What a type makes of settled arguments. -/
def callPlainType (name : String) (a : Datum.Arguments) : Evaluation Datum := do
  let plain ← a.plain.mapM fun d => do
    if ["bytes", "bytearray"].contains name then settled (← e.gone d) else settled d
  let labelled ← a.labelled.mapM fun (s, d) => do return (s, ← settled d)
  stored (← Datum.callType name { plain, labelled })

/-- The functions of a type of its own that a common type asks for data of it. -/
def conversions (name : String) : List String :=
  match name with
  | "int" => ["__int__", "__index__"]
  | "float" => ["__float__", "__index__"]
  | "complex" => ["__complex__", "__float__", "__index__"]
  | "bytes" => ["__bytes__"]
  | _ => []

/-- The value of the first of some functions that the own type of data has. -/
def firstOwn? (d : Datum) : List String → Evaluation (Option Datum)
  | [] => return none
  | name :: names => do
    match ← e.callOwn? d name [] with
    | some r => return some r
    | none => firstOwn? d names

/-- What a common type makes of its arguments. -/
def callType (name : String) (a : Datum.Arguments) : Evaluation Datum := do
  match e.callGroupType? name a with
  | some r => r
  | none =>
    match name, a.plain, a.labelled with
    | "type", [d], [] => return (← opened d).typeOf
    | "type", ds, labelled =>
      if ds.length ≠ 3 && !labelled.isEmpty then throw (.misuse (.noLabels name))
      newType ds
    | "super", [], _ => throw (.misuse .noSuper)
    | "classmethod", [], _ | "staticmethod", [], _ =>
      throw (Datum.countFault name (.exactly 1 0))
    | "str", [d], [] => return .text (← e.written d)
    | "bool", [d], [] => return .truth (← e.holds d)
    | "property", f :: _, _ | "classmethod", f :: _, _ | "staticmethod", f :: _, _ =>
      return .thing name "made" [("fget", f)]
    | name, ds, _ =>
      if name = Datum.fileKind then
        match ds with
        | [] | .absent :: _ => allocated (Datum.file [] 0 false)
        | d :: _ => allocated (Datum.file (← Datum.bytesArgument (← opened d)) 0 false)
      else
        match ← e.firstOwn? (ds.headD .absent) (conversions name) with
        | some r => return r
        | none => e.callPlainType name a

/-! ### Calls -/

/-- The parameters of an operation, and the defaults of those that need no argument. -/
def operationParameters (parts : Names) : Evaluation (Parameters × Names) := do
  let code := match parts.lookup "__code__" with
    | some (.thing _ _ code) => code
    | _ => []
  let count := fun (s : String) => (((code.lookup s).bind Datum.number?).getD 0).toNat
  let names := match code.lookup "co_varnames" with
    | some (.tuple names) => names.map Datum.plain
    | _ => []
  let plain := names.take (count "co_argcount")
  let labelled := (names.drop plain.length).take (count "co_kwonlyargcount")
  let defaults := match parts.lookup "__defaults__" with
    | some (.tuple ds) => (plain.drop (plain.length - ds.length)).zip ds
    | _ => []
  let others ← match ← opened ((parts.lookup "__kwdefaults__").getD .absent) with
    | .record keys values => pure ((keys.map Datum.plain).zip values)
    | _ => pure []
  return ({ plain, labelled }, defaults ++ others)

/-- The value of a function of tuples with fields for the first argument. -/
def callEntryFunction (t : Datum) (name : String) (a : Datum.Arguments) : Evaluation Datum := do
  match a.plain with
  | [] => throw (Datum.countFault (t.fieldOwner ++ "." ++ name) (.without ["self"]))
  | d :: rest =>
    match ← opened d with
    | .entry u items _ =>
      stored (← Datum.callEntryMethod u items name { a with plain := rest })
    | o =>
      throw (.misuse (.noPart o.kind (if name = "_asdict" then "_fields" else "_make")))

/-- The value of a call. -/
def called (f : Datum) (a : Datum.Arguments) : Evaluation Datum := do
  match ← opened f with
  | .function title p defaults body locals frames world =>
    e.callFunction title p defaults body locals frames world a
  | .attached g d => e.call g { a with plain := d :: a.plain }
  | .builtin name => e.callKnown known name a
  | .type name => e.callType name a
  | .method owner name => e.callMethod owner name a
  | .thing "type" _ _ => e.newInstance f a
  | .thing "types.GenericAlias" _ parts => e.call ((parts.lookup "__origin__").getD .absent) a
  | .thing "method_descriptor" name [(_, .type t)] => e.callUnbound false t name a
  | .thing "wrapper_descriptor" name [(_, .type t)] => e.callUnbound true t name a
  | .thing "function" name parts =>
    match parts.lookup "owner" with
    | some t => callEntryFunction t name a
    | none =>
      let (parameters, defaults) ← operationParameters parts
      known.operate e name (← parameters.bind name defaults a)
  | o =>
    match ← own? f "__call__" with
    | some g => e.call g a
    | none => throw (.misuse (.notCallable o.kind))

end Evaluator

end Nsis
