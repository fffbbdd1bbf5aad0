import Nsis.Formula.Operator
import Nsis.Formula.Token

/-!
# Tuples with fields

A type can give names to the items of its tuples. Such a tuple is made from its items, and can be
turned into one with other items or into a record.

## Main definitions

* `Nsis.Datum.entryType` — a type whose tuples have fields.
* `Nsis.Datum.newEntry` — a tuple from arguments for its fields.
* `Nsis.Datum.makeEntry` — a tuple from its items.
* `Nsis.Datum.callEntryMethod` — the value of a function of such a tuple.
* `Nsis.Evaluator.newEntryType` — a type with the fields that a formula names.
-/

namespace Nsis

namespace Datum

/-- The description of a field. -/
def fieldGetter (index : Nat) (name : String) : Datum :=
  let doc := "Alias for field number " ++ Text.decimal index
  thing "_collections._tuplegetter"
    ("_tuplegetter(" ++ Text.decimal index ++ ", " ++ Text.quoted doc ++ ")")
    [("__doc__", text doc), ("field", text name)]

/-- A type whose tuples have fields, some with a default. -/
def entryType (place name : String) (fields : List String) (defaults : List (String × Datum)) :
    Datum :=
  let names := tuple (fields.map text)
  thing "type" name ([
    ("__bases__", tuple [type "tuple"]), ("__module__", text place),
    ("__doc__", text (name ++ "(" ++ listed fields ++ ")")), ("__slots__", tuple []),
    ("_fields", names),
    ("_field_defaults", record (defaults.map fun (s, _) => text s) (defaults.map (·.2))),
    ("__match_args__", names)] ++ fields.mapIdx fun i s => (s, fieldGetter i s))

/-- A type that belongs to one whose tuples have fields. Its tuples can have parts of their own, and
some from the type. -/
def entrySubtype (base : Datum) (place : String) (parts : List (String × Datum)) : Datum :=
  thing "type" base.typeName ([
    ("__bases__", tuple [base]), ("__module__", text place), ("__doc__", absent),
    ("__weakref__", absent), ("_fields", tuple (base.fieldNames.map text))] ++ parts)

/-- The type that first gave the fields to a type. -/
def fieldOwner (t : Datum) : String :=
  ((t.ancestors.filter isEntryType).getLast?.getD t).typeName

/-- A tuple from arguments for its fields. The type itself counts as an argument. -/
def newEntry (t : Datum) (defaults : List (String × Datum)) (a : Arguments) :
    Except Fault Datum := do
  let fields := t.fieldNames
  let parameters : Parameters := { plain := "_cls" :: fields }
  let a := { a with plain := t :: a.plain }
  let bound ← parameters.bind (t.fieldOwner ++ ".__new__") defaults a
  return entry t (fields.map fun s => (bound.lookup s).getD absent) []

/-- A tuple from its items, which have to be as many as there are fields. -/
def makeEntry (t : Datum) (items : List Datum) : Except Fault Datum :=
  let n := t.fieldNames.length
  if items.length = n then .ok (entry t items [])
  else .error (.misuse (.fieldCount n items.length))

/-- A tuple with other items for some of its fields. -/
def replacedFields (t : Datum) (items : List Datum) (labelled : List (String × Datum)) :
    Except Fault Datum :=
  let fields := t.fieldNames
  match labelled.filter fun (s, _) => !fields.contains s with
  | [] => .ok (entry t (List.zipWith (fun s d => (labelled.lookup s).getD d) fields items) [])
  | others => .error (.misuse (.unknownFields (list (others.map fun (s, _) => text s)).shown))

/-- The value of a function of a tuple with fields. -/
def callEntryMethod (t : Datum) (items : List Datum) (name : String) (a : Arguments) :
    Except Fault Datum := do
  let function := t.fieldOwner ++ "." ++ name
  let given := a.plain.length + 1
  if given ≠ 1 then throw (countFault function (.between 1 1 given 0))
  if name = "_replace" then replacedFields t items a.labelled
  else
    if let (s, _) :: _ := a.labelled then throw (.misuse (.unknownLabel function s))
    if name = "_asdict" then return record (t.fieldNames.map text) items
    return tuple items

/-! ### New types -/

/-- Refuse what is no name of a type or a field. -/
def checkName (s : String) : Except Fault Unit := do
  if !(s.toList.head?.any Text.isWordStart && s.toList.all Text.isWordPart) then
    throw (.misuse (.badTypeName (text s).shown))
  if Formula.reserved.contains s then throw (.misuse (.reservedTypeName (text s).shown))

/-- Refuse the name of a field that begins with an underscore or that was there before. -/
def checkField (seen : List String) (s : String) : Except Fault (List String) := do
  if s.startsWith "_" then throw (.misuse (.hiddenField (text s).shown))
  if seen.contains s then throw (.misuse (.repeatedField (text s).shown))
  return s :: seen

/-- Names of fields in which those that cannot be names are replaced by their number. -/
def renamedFields (fields : List String) : List String :=
  fields.mapIdx fun i s =>
    if (checkName s).isOk && !s.startsWith "_" && !(fields.take i).contains s then s
    else "_" ++ Text.decimal i

end Datum

namespace Evaluator

open Evaluation

variable (e : Evaluator)

/-- The defaults of the fields of a type. -/
def fieldDefaults (t : Datum) : Evaluation Names := do
  match ← opened ((t.classPart? "_field_defaults").getD .absent) with
  | .record keys values => return (keys.map Datum.plain).zip values
  | _ => return []

/-- The names of fields that data are: words in a text, or the items of a group. -/
def fieldNamesOf (d : Datum) : Evaluation (List String) := do
  match d with
  | .text s =>
    let isGap := fun (c : Char) => c = ',' || Text.isSpace c
    return (Datum.blankParts isGap s.length s.toList).map String.ofList
  | d => (← e.items d).mapM e.written

/-- A type with the fields that a formula names. -/
def newEntryType (place : String) (bound : Names) : Evaluation Datum := do
  let argument := fun (s : String) => (bound.lookup s).getD .absent
  let fields ← e.fieldNamesOf (argument "field_names")
  let name ← e.written (argument "typename")
  let isRenamed ← e.holds (argument "rename")
  let fields := if isRenamed then Datum.renamedFields fields else fields
  (name :: fields).forM fun s => liftM (Datum.checkName s)
  if !isRenamed then
    let _ ← (fields.foldlM Datum.checkField [] : Except Fault (List String))
  let defaults ← match argument "defaults" with
    | .absent => pure []
    | d => e.items d
  if fields.length < defaults.length then throw (.misuse .manyDefaults)
  let place ← match argument "module" with
    | .absent => pure place
    | d => e.written d
  let withDefaults := fields.drop (fields.length - defaults.length)
  let id ← allocate (.data .absent)
  match ← stored (Datum.entryType place name fields (withDefaults.zip defaults)) with
  | .thing kind name parts =>
    return .thing kind name (parts ++ [(Datum.addressPart, .shared id)])
  | d => return d

end Evaluator

end Nsis
