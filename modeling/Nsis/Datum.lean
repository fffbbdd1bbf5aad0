import Nsis.Formula.Basic
import Nsis.Text.Fraction
import Nsis.Text.Quoted

/-!
# Data

Some operations take whatever they are given, and formulas can stand for anything: nothing, truth
values, numbers, texts, groups of other data, functions, and things of which only the kind matters.
What cannot be used is refused by its kind. Data that a formula can change are kept elsewhere and
stand here by their address.

## Main definitions

* `Nsis.Datum` — data of any kind.
* `Nsis.Datum.Kind` — the kinds.
* `Nsis.Datum.shown` — how data are written.
* `Nsis.Datum.number?` — the number that data stand for.
-/

namespace Nsis

/-- Data of any kind. A record has as many keys as values. -/
inductive Datum where
  | absent
  | truth (b : Bool)
  | number (n : Int)
  | fraction (x : Float)
  /-- A number with an imaginary part. -/
  | complex (x y : Float)
  | text (s : String)
  | bytes (b : Bytes)
  | list (items : List Datum)
  | tuple (items : List Datum)
  | set (items : List Datum)
  /-- A set that cannot be changed. -/
  | fixedSet (items : List Datum)
  | record (keys values : List Datum)
  /-- Bytes that can be changed, or a view of bytes. -/
  | buffer (isView : Bool) (b : Bytes)
  /-- A tuple whose items are the fields of a type, with parts of its own besides. -/
  | entry (type : Datum) (items : List Datum) (own : List (String × Datum))
  /-- The numbers from `start` up to `stop` in steps. -/
  | range (start stop step : Int)
  /-- The positions from `start` up to `stop` in steps, where given. -/
  | slice (start stop step : Datum)
  /-- Items that come one after the other, of a kind with a name of its own. -/
  | series (kind : String) (items : List Datum)
  /-- A function that a formula defines; some parameters may have defaults. It sees the variables
  at some addresses, and gives names of its own to values. -/
  | function (title : String) (parameters : Parameters) (defaults : List (String × Datum))
    (body : Formula) (locals : List String) (frames : List Nat) (world : Nat)
  /-- A function with its first argument. -/
  | attached (function owner : Datum)
  /-- A function that is known by its name. -/
  | builtin (name : String)
  /-- A type that is known by its name. -/
  | type (name : String)
  /-- A function that belongs to other data. -/
  | method (owner : Datum) (name : String)
  /-- Anything else, by its kind, its own name and its parts. -/
  | thing (kind name : String) (parts : List (String × Datum))
  /-- Data that can change, by their address. -/
  | shared (address : Nat)
  deriving Inhabited

namespace Datum

/-- The kinds of data. -/
inductive Kind where
  | absent
  | truth
  | number
  | fraction
  | complex
  | text
  | bytes
  | list
  | tuple
  | set
  | record
  | range
  /-- A kind with a name of its own. -/
  | other (name : String)
  deriving DecidableEq, Repr

/-- The name of a kind, as faults give it. -/
def Kind.name : Kind → String
  | absent => "NoneType"
  | truth => "bool"
  | number => "int"
  | fraction => "float"
  | complex => "complex"
  | text => "str"
  | bytes => "bytes"
  | list => "list"
  | tuple => "tuple"
  | set => "set"
  | record => "dict"
  | range => "range"
  | other name => name

/-- The name of a type. -/
def typeName : Datum → String
  | type name | thing _ name _ => name
  | _ => ""

/-- The kind of data. -/
def kind : Datum → Kind
  | absent => .absent
  | truth _ => .truth
  | number _ => .number
  | fraction _ => .fraction
  | complex _ _ => .complex
  | text _ => .text
  | bytes _ => .bytes
  | list _ => .list
  | tuple _ => .tuple
  | set _ => .set
  | fixedSet _ => .other "frozenset"
  | record _ _ => .record
  | buffer isView _ => .other (if isView then "memoryview" else "bytearray")
  | entry t _ _ => .other t.typeName
  | range _ _ _ => .range
  | slice _ _ _ => .other "slice"
  | series kind _ => .other kind
  | function _ _ _ _ _ _ _ => .other "function"
  | attached _ _ => .other "method"
  | method _ name =>
    .other (if name.startsWith "__" then "method-wrapper" else "builtin_function_or_method")
  | builtin _ => .other "builtin_function_or_method"
  | type _ => .other "type"
  | thing kind _ _ => .other kind
  | shared _ => .other "object"

/-- A byte inside quotes. What is no character of ASCII that can be seen is written by its
number. -/
def shownByte (mark : Char) (b : UInt8) : List Char :=
  if b.toNat < 0x7f then Text.quotedChar mark (Char.ofNat b.toNat)
  else '\\' :: 'x' :: Text.padded 2 b.toNat

/-- How a byte string is written. -/
def shownBytes (b : Bytes) : String :=
  let mark := Text.quoteMark (b.map fun c => Char.ofNat c.toNat)
  String.ofList ('b' :: mark :: b.flatMap (shownByte mark) ++ [mark])

/-- Items with commas between them. -/
def listed (items : List String) : String :=
  String.intercalate ", " items

/-- A fraction without the zero behind its point. -/
def shownPart (x : Float) : String :=
  let cs := (Text.fraction x).toList
  String.ofList (if ".0".toList.isSuffixOf cs then cs.take (cs.length - 2) else cs)

/-- How a number with an imaginary part is written. A real part of zero is left out. -/
def shownComplex (x y : Float) : String :=
  let imaginary := shownPart y
  if x.toBits = 0 then imaginary ++ "j"
  else "(" ++ shownPart x ++ (if imaginary.startsWith "-" then "" else "+") ++ imaginary ++ "j)"

/-- The names of the fields that are among parts. -/
def fields? (parts : List (String × Datum)) : Option (List String) :=
  match parts.lookup "_fields" with
  | some (tuple names) => some (names.map fun
    | text s => s
    | _ => "")
  | _ => none

/-- The names of the fields of a type. -/
def fieldNames : Datum → List String
  | thing _ _ parts => (fields? parts).getD []
  | _ => []

/-- Whether data are a type whose tuples have fields. -/
def isEntryType : Datum → Bool
  | thing "type" _ parts => (fields? parts).isSome
  | _ => false

/-- Whether the data of a type can get parts of their own. -/
def takesParts : Datum → Bool
  | thing _ _ parts => (parts.lookup "__weakref__").isSome
  | _ => false

/-- The name of the part that tells at which address data are kept. No formula names it. -/
def addressPart : String := ".address"

/-- The address that is among parts. -/
def address? (parts : List (String × Datum)) : Option Nat :=
  match parts.lookup addressPart with
  | some (shared a) => some a
  | _ => none

/-- An address as it is written. -/
def shownAddress (a : Nat) : String :=
  " at " ++ Text.hex (0x7f0000000000 + 48 * a)

/-- The name of a type with the place where it comes from. -/
def fullName (name : String) (parts : List (String × Datum)) : String :=
  match parts.lookup "__module__" with
  | some (text "builtins") | none => name
  | some (text place) => place ++ "." ++ name
  | _ => name

/-- Words with names in front of them. -/
def labelled (names words : List String) : List String :=
  List.zipWith (fun name word => name ++ "=" ++ word) names words

/-- What data at an address are called. -/
def shownKind (kind : String) (parts : List (String × Datum)) : String :=
  match kind, parts.lookup "__qualname__", parts.lookup "__class__" with
  | "function", some (text title), _ => "function " ++ title
  | "generator", _, _ => "generator object <genexpr>"
  | _, _, some (thing _ name classParts) => fullName name classParts ++ " object"
  | kind, _, _ => kind ++ " object"

mutual

/-- Data as they are written inside others: texts in quotation marks. -/
def shown : Datum → String
  | absent => "None"
  | truth b => if b then "True" else "False"
  | number n => Text.decimal n
  | fraction x => Text.fraction x
  | complex x y => shownComplex x y
  | text s => Text.quoted s
  | bytes b => shownBytes b
  | list items => "[" ++ listed (shownItems items) ++ "]"
  | tuple items =>
    "(" ++ listed (shownItems items) ++ if items.length = 1 then ",)" else ")"
  | set items =>
    if items.isEmpty then "set()" else "\x7b" ++ listed (shownItems items) ++ "\x7d"
  | fixedSet items =>
    if items.isEmpty then "frozenset()"
    else "frozenset(\x7b" ++ listed (shownItems items) ++ "\x7d)"
  | buffer isView b => if isView then "<memory>" else "bytearray(" ++ shownBytes b ++ ")"
  | entry t items _ =>
    t.typeName ++ "(" ++ listed (labelled t.fieldNames (shownItems items)) ++ ")"
  | record keys values =>
    let entry := fun (k v : String) => k ++ ": " ++ v
    "\x7b" ++ listed (List.zipWith entry (shownItems keys) (shownItems values))
      ++ "\x7d"
  | range start stop step =>
    "range(" ++ Text.decimal start ++ ", " ++ Text.decimal stop
      ++ (if step = 1 then "" else ", " ++ Text.decimal step) ++ ")"
  | slice start stop step =>
    "slice(" ++ listed [shown start, shown stop, shown step] ++ ")"
  | series kind items =>
    if ["dict_keys", "dict_values", "dict_items"].contains kind then
      kind ++ "([" ++ listed (shownItems items) ++ "])"
    else "<" ++ kind ++ " object>"
  | function title _ _ _ _ _ _ => "<function " ++ title ++ ">"
  | attached f _ => "<bound method " ++ f.typeName ++ ">"
  | builtin name => "<built-in function " ++ name ++ ">"
  | type name => "<class '" ++ name ++ "'>"
  | method _ name => "<built-in method " ++ name ++ ">"
  | thing "ellipsis" name _ | thing "NotImplementedType" name _ => name
  | thing "list" name _ | thing "dict" name _ | thing "types.UnionType" name _
  | thing "types.GenericAlias" name _ | thing "_collections._tuplegetter" name _ => name
  | thing "method_descriptor" name [(_, t)] =>
    "<method '" ++ name ++ "' of '" ++ t.typeName ++ "' objects>"
  | thing "wrapper_descriptor" name [(_, t)] =>
    "<slot wrapper '" ++ name ++ "' of '" ++ t.typeName ++ "' objects>"
  | thing "type" name parts => "<class '" ++ fullName name parts ++ "'>"
  | thing kind name parts => match shownArguments parts, address? parts with
    | some s, _ => kind ++ "(" ++ s ++ ")"
    | none, some a => "<" ++ shownKind kind parts ++ shownAddress a ++ ">"
    | none, none => "<" ++ kind ++ " '" ++ name ++ "'>"
  | shared _ => "<object>"

/-- The items of a list as they are written. -/
def shownItems : List Datum → List String
  | [] => []
  | d :: ds => shown d :: shownItems ds

/-- The arguments that are among parts as they are written. -/
def shownArguments : List (String × Datum) → Option String
  | [] => none
  | ("args", tuple items) :: _ => some (listed (shownItems items))
  | _ :: parts => shownArguments parts

end

/-- Data as they are written on their own: a text as it is, and of a fault its arguments. -/
def plain : Datum → String
  | text s => s
  | d@(thing kind _ parts) =>
    match parts.lookup "args" with
    | some (tuple []) => ""
    | some (tuple [text s]) => if kind = "KeyError" then (text s).shown else s
    | some (tuple [e]) => e.shown
    | some e => e.shown
    | none => d.shown
  | d => d.shown

/-- A type as it is written inside others. -/
def typeTitle : Datum → String
  | type name => if name = "NoneType" then "None" else name
  | thing "type" name parts => fullName name parts
  | thing "ellipsis" _ _ => "..."
  | d => d.shown

/-- The items of a tuple, which may have named fields. -/
def tupleItems? : Datum → Option (List Datum)
  | tuple items | entry _ items _ => some items
  | _ => none

/-- The items of a set that may be fixed. -/
def setItems? : Datum → Option (List Datum)
  | set items | fixedSet items => some items
  | _ => none

/-- The bytes of a byte string or a buffer. -/
def bytes? : Datum → Option Bytes
  | bytes b | buffer _ b => some b
  | _ => none

/-- The number that data stand for; of the truth values, the true one stands for one. -/
def number? : Datum → Option Int
  | number n => some n
  | truth b => some (if b then 1 else 0)
  | _ => none

end Datum

end Nsis
