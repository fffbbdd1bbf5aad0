import Nsis.Datum.Type

/-!
# Parts of data

Data have parts with names: numbers tell their real part, types their name, tuples with fields the
value of each field, and most data have functions of their own.

## Main definitions

* `Nsis.Datum.methodNames` — the functions that data of a kind have.
* `Nsis.Datum.part` — a part of data by its name.
-/

namespace Nsis.Datum

/-- The functions that texts and byte strings have. -/
def textMethods : List String := [
  "capitalize", "center", "count", "endswith", "expandtabs", "find", "index", "isalnum", "isalpha",
  "isascii", "isdigit", "islower", "isspace", "istitle", "isupper", "join", "ljust", "lower",
  "lstrip", "maketrans", "partition", "removeprefix", "removesuffix", "replace", "rfind", "rindex",
  "rjust", "rpartition", "rsplit", "rstrip", "split", "splitlines", "startswith", "strip",
  "swapcase", "title", "translate", "upper", "zfill"]

/-- The functions of sets that leave them as they are. -/
def setMethods : List String := [
  "copy", "difference", "intersection", "isdisjoint", "issubset", "issuperset",
  "symmetric_difference", "union"]

/-- The functions that data of a kind have. -/
def methodNames : Kind → List String
  | .number | .truth => ["as_integer_ratio", "bit_count", "bit_length", "conjugate", "from_bytes",
    "to_bytes"]
  | .fraction => ["as_integer_ratio", "conjugate", "fromhex", "hex", "is_integer"]
  | .complex => ["conjugate"]
  | .text => textMethods ++ ["casefold", "encode", "format", "format_map", "isdecimal",
    "isidentifier", "isnumeric", "isprintable"]
  | .bytes => textMethods ++ ["decode", "fromhex", "hex"]
  | .list => ["append", "clear", "copy", "count", "extend", "index", "insert", "pop", "remove",
    "reverse", "sort"]
  | .tuple | .range => ["count", "index"]
  | .record => ["clear", "copy", "fromkeys", "get", "items", "keys", "pop", "popitem", "setdefault",
    "update", "values"]
  | .set => setMethods ++ ["add", "clear", "difference_update", "discard", "intersection_update",
    "pop", "remove", "symmetric_difference_update", "update"]
  | .other "frozenset" => setMethods
  | .other "bytearray" => textMethods ++ ["append", "clear", "copy", "decode", "extend", "fromhex",
    "hex", "insert", "pop", "remove", "reverse"]
  | .other "memoryview" => ["cast", "hex", "release", "tobytes", "tolist", "toreadonly"]
  | .other "slice" => ["indices"]
  | .other "dict_keys" | .other "dict_items" => ["isdisjoint"]
  | .other "generator" => ["close", "send", "throw"]
  | .other "_io.BytesIO" => ["close", "getbuffer", "getvalue", "read", "readable", "readline",
    "readlines", "seek", "seekable", "tell", "truncate", "writable", "write"]
  | .other "zlib.Compress" => ["compress", "copy", "flush"]
  | .other "zlib.Decompress" => ["copy", "decompress", "flush"]
  | .other "_struct.Struct" => ["iter_unpack", "pack", "pack_into", "unpack", "unpack_from"]
  | _ => []

/-- The operations on two data that are also functions of the first one. -/
def operationMethods : List (String × Operation) := [
  ("__or__", .bitwiseOr), ("__xor__", .bitwiseXor), ("__and__", .bitwiseAnd),
  ("__lshift__", .shiftLeft), ("__rshift__", .shiftRight), ("__add__", .plus), ("__sub__", .minus),
  ("__mul__", .times), ("__truediv__", .division), ("__floordiv__", .quotient),
  ("__mod__", .remainder), ("__pow__", .power)]

/-- The operations on two data that are also functions of the second one. -/
def reflectedMethods : List (String × Operation) := [
  ("__ror__", .bitwiseOr), ("__rxor__", .bitwiseXor), ("__rand__", .bitwiseAnd),
  ("__rlshift__", .shiftLeft), ("__rrshift__", .shiftRight), ("__radd__", .plus),
  ("__rsub__", .minus), ("__rmul__", .times), ("__rtruediv__", .division),
  ("__rfloordiv__", .quotient), ("__rmod__", .remainder), ("__rpow__", .power)]

/-- The relations between two data that are also functions of the first one. -/
def relationMethods : List (String × Relation) := [
  ("__lt__", .less), ("__le__", .lessEqual), ("__gt__", .greater), ("__ge__", .greaterEqual),
  ("__eq__", .equal), ("__ne__", .unequal)]

/-- The names of operations that the data of a kind have as functions. -/
def operationNames : Kind → List String
  | .fraction =>
    ["__add__", "__sub__", "__mul__", "__truediv__", "__floordiv__", "__mod__", "__pow__",
      "__radd__", "__rsub__", "__rmul__", "__rtruediv__", "__rfloordiv__", "__rmod__", "__rpow__"]
  | .complex =>
    ["__add__", "__sub__", "__mul__", "__truediv__", "__pow__", "__radd__", "__rsub__", "__rmul__",
      "__rtruediv__", "__rpow__"]
  | .text | .bytes => ["__add__", "__mul__", "__mod__", "__rmul__", "__rmod__"]
  | .list => ["__add__", "__mul__", "__rmul__", "__iadd__", "__imul__"]
  | .tuple => ["__add__", "__mul__", "__rmul__"]
  | .set | .other "frozenset" =>
    ["__or__", "__and__", "__sub__", "__xor__", "__ror__", "__rand__", "__rsub__", "__rxor__"]
  | .record => ["__or__", "__ror__", "__ior__"]
  | .number | .truth => operationMethods.map (·.1) ++ reflectedMethods.map (·.1)
  | .other "bytearray" => ["__add__", "__mul__", "__mod__", "__rmul__", "__iadd__"]
  | _ => []

/-- The functions that the data of a kind have because they are groups. -/
def groupMethods : Kind → List String
  | .list | .record | .other "bytearray" =>
    ["__len__", "__contains__", "__iter__", "__getitem__", "__setitem__", "__delitem__"]
  | .text | .bytes | .tuple | .range => ["__len__", "__contains__", "__iter__", "__getitem__"]
  | .other "memoryview" => ["__len__", "__getitem__"]
  | .set | .other "frozenset" | .other "dict_keys" | .other "dict_values" | .other "dict_items" =>
    ["__len__", "__contains__", "__iter__"]
  | .other "generator" | .other "map" | .other "filter" | .other "zip" | .other "enumerate"
  | .other "list_iterator" | .other "tuple_iterator" | .other "range_iterator" =>
    ["__iter__", "__next__"]
  | _ => []

/-- The functions with underscores at both ends that all data have. -/
def commonMethods : List String := [
  "__str__", "__repr__", "__hash__", "__init__", "__format__", "__sizeof__", "__dir__",
  "__reduce__", "__reduce_ex__", "__getattribute__", "__setattr__", "__delattr__", "__new__",
  "__init_subclass__", "__subclasshook__", "__getstate__"]

/-- The functions with underscores at both ends that data of a kind have. -/
def specialMethods (k : Kind) : List String :=
  let isWhole := k = .number || k = .truth
  let isNumber := isWhole || k = .fraction || k = .complex
  relationMethods.map (·.1) ++ commonMethods ++ operationNames k ++ groupMethods k
    ++ (if isNumber then ["__bool__", "__neg__", "__pos__", "__abs__", "__getnewargs__"] else [])
    ++ (if k = .complex then ["__complex__"] else [])
    ++ (if k = .absent || k = .range then ["__bool__"] else [])
    ++ (if k = .text || k = .bytes || k = .tuple then ["__getnewargs__"] else [])
    ++ (if isWhole then ["__index__", "__invert__"] else [])
    ++ if isWhole || k = .fraction then
      ["__int__", "__float__", "__round__", "__trunc__", "__floor__", "__ceil__", "__divmod__",
        "__rdivmod__"]
    else []

/-- The parts of a number. -/
def numberPart? (d : Datum) (name : String) : Option Datum :=
  match d, d.number? with
  | _, some n =>
    if name = "real" || name = "numerator" then some (number n)
    else if name = "imag" then some (number 0)
    else if name = "denominator" then some (number 1)
    else none
  | fraction x, _ =>
    if name = "real" then some (fraction x) else if name = "imag" then some (fraction 0) else none
  | complex x y, _ =>
    if name = "real" then some (fraction x) else if name = "imag" then some (fraction y) else none
  | _, _ => none

/-- The parts of a group that are no functions. -/
def groupPart? (d : Datum) (name : String) : Option Datum :=
  match d, name with
  | range start _ _, "start" => some (number start)
  | range _ stop _, "stop" => some (number stop)
  | range _ _ step, "step" => some (number step)
  | slice start _ _, "start" => some start
  | slice _ stop _, "stop" => some stop
  | slice _ _ step, "step" => some step
  | buffer true b, "nbytes" => some (number b.length)
  | buffer true _, "itemsize" | buffer true _, "ndim" => some (number 1)
  | buffer true _, "format" => some (text "B")
  | buffer true b, "shape" => some (tuple [number b.length])
  | buffer true _, "readonly" => some (truth true)
  | _, _ => none

/-- The kinds of data that types have by their names. -/
def kindNamed (name : String) : Kind :=
  ([Kind.truth, .number, .fraction, .complex, .text, .bytes, .list, .tuple, .set, .record,
    .range, .absent].find? (·.name = name)).getD (.other name)

/-- The functions of a type that do not need a datum of the type. -/
def typeFunctions : List String := ["from_bytes", "fromhex", "fromkeys", "maketrans"]

/-- The last word of a name with points. -/
def lastWord (name : String) : String :=
  String.ofList ((name.toList.reverse.takeWhile (· ≠ '.')).reverse)

/-- The words before the last one of a name with points, or where common types come from. -/
def firstWords (name : String) : String :=
  let cs := (name.toList.reverse.dropWhile (· ≠ '.')).drop 1
  if cs.isEmpty then "builtins" else String.ofList cs.reverse

/-- Parts as a record, without those that no formula names. -/
def partsRecord (parts : List (String × Datum)) : Datum :=
  let parts := parts.filter fun (s, _) => s ≠ "__class__" && s ≠ addressPart
  record (parts.map fun (s, _) => text s) (parts.map (·.2))

/-- The parts that a type has as a type. -/
def typeOwnPart? (t : Datum) (name : String) : Option Datum :=
  match name with
  | "__name__" => some (text (lastWord t.typeName))
  | "__qualname__" => some (text (lastWord t.typeName))
  | "__class__" => some (.type "type")
  | "__mro__" => some (tuple t.ancestors)
  | "__base__" => (t.ancestors.drop 1).head?.orElse fun _ => some absent
  | "__bases__" => some (tuple ((t.ancestors.drop 1).take 1))
  | "mro" => some (method t name)
  | "__dict__" => match t with
    | thing _ _ parts => some (partsRecord (parts.filter (·.1 ≠ "__bases__")))
    | _ => some (record [] [])
  | _ => none

/-- A part of a common type. -/
def typePart (t name : String) : Except Fault Datum :=
  let k := kindNamed t
  match typeOwnPart? (.type t) name with
  | some p => .ok p
  | none =>
    if name = "__module__" then .ok (text (firstWords t))
    else if name = "__doc__" then .ok (text t)
    else if name = "__call__" then .ok (method (.type t) name)
    else if (methodNames k).contains name then
      if typeFunctions.contains name then .ok (method (.type t) name)
      else .ok (thing "method_descriptor" name [("owner", .type t)])
    else if (t = "int" || t = "bool")
      && ["real", "imag", "numerator", "denominator"].contains name then
      .ok (thing "getset_descriptor" name [])
    else if name = "__new__" then .ok (method (.type t) name)
    else if (specialMethods k).contains name then
      .ok (thing "wrapper_descriptor" name [("owner", .type t)])
    else .error (.misuse (.noTypePart t name))

/-- Whether data of a kind cannot be keys. -/
def isUnhashable (k : Kind) : Bool :=
  [Kind.list, .record, .set, .other "bytearray", .other "slice", .other "dict_keys",
    .other "dict_items"].contains k

/-- A function that belongs to data. -/
def ownMethod (d : Datum) (name : String) : Except Fault Datum :=
  if name = "__hash__" && isUnhashable d.kind then .ok absent
  else if (methodNames d.kind).contains name || (specialMethods d.kind).contains name then
    .ok (method d name)
  else .error (.misuse (.noPart d.kind name))

/-- The functions that tuples with fields have besides those of tuples. -/
def entryMethods : List String := ["_asdict", "_replace", "__getnewargs__"]

/-- The common type that a type belongs to first. -/
def commonBase (t : Datum) : String :=
  (t.ancestors.findSome? fun
    | type name => some name
    | _ => none).getD "object"

/-- A part of a type that has parts of its own. -/
def ownTypePart (t : Datum) (name : String) : Except Fault Datum :=
  match t.classPart? name, typeOwnPart? t name with
  | _, some (record keys values) => .ok (record keys values)
  | some p, _ => .ok p
  | none, some p => .ok p
  | none, none =>
    if t.isEntryType && (name = "_make" || name = "__new__") then .ok (method t name)
    else if t.isEntryType && entryMethods.contains name then
      .ok (thing "function" name [("owner", t)])
    else
      match typePart t.commonBase name with
      | .ok p => .ok p
      | .error _ => .error (.misuse (.noTypePart t.typeName name))

/-- A part that the type of a datum gives it. -/
def inherited? (d : Datum) (name : String) : Option Datum :=
  match d.typeOf.classPart? name with
  | some (thing "_collections._tuplegetter" _ _) => none
  | p => p

/-- A part of a tuple with fields. -/
def entryPart (d t : Datum) (items : List Datum) (own : List (String × Datum)) (name : String) :
    Except Fault Datum :=
  match t.fieldNames.idxOf? name with
  | some i => .ok (items.getD i absent)
  | none =>
    match own.lookup name, d.inherited? name with
    | some p, _ => .ok p
    | none, some p => .ok p
    | none, none =>
      if name = "__class__" then .ok t
      else if name = "__dict__" && t.takesParts then .ok (partsRecord own)
      else if name = "_make" then .ok (method t name)
      else if entryMethods.contains name || (methodNames .tuple).contains name
        || (specialMethods .tuple).contains name then .ok (method d name)
      else .error (.misuse (.noPart d.kind name))

/-- The functions for packed data. -/
def packingNames : List String := [
  "calcsize", "iter_unpack", "pack", "pack_into", "unpack", "unpack_from"]

/-- The functions for deflated data. -/
def deflationNames : List String := [
  "adler32", "compress", "compressobj", "crc32", "decompress", "decompressobj"]

/-- Where a function that is known by its name comes from. -/
def placeOf (name : String) : String :=
  if packingNames.contains name then "_struct"
  else if deflationNames.contains name then "zlib"
  else "builtins"

/-- The kinds of things that have a name. -/
def namedKinds : List String := [
  "module", "function", "type", "method_descriptor", "wrapper_descriptor", "getset_descriptor"]

/-- A part of any other thing. -/
def thingPart (d : Datum) (kind own : String) (parts : List (String × Datum)) (name : String) :
    Except Fault Datum :=
  match parts.lookup name, d.inherited? name with
  | some p, _ => .ok p
  | none, some p => .ok p
  | none, none =>
    if name = "__class__" then .ok d.typeOf
    else if name = "__doc__" then
      .ok (if kind = "module" || (parts.lookup "format").isSome then text own else absent)
    else if (name = "__name__" || (name = "__qualname__" && kind ≠ "module"))
      && namedKinds.contains kind then
      .ok (text own)
    else if name = "__dict__" && ((parts.lookup "__class__").isSome || kind = "module") then
      .ok (partsRecord parts)
    else if (methodNames (.other kind)).contains name then .ok (method d name)
    else if kind = "module" then .error (.misuse (.noModulePart own name))
    else if (specialMethods (.other kind)).contains name then .ok (method d name)
    else .error (.misuse (.noPart (.other kind) name))

/-- What is known about the code of a function. -/
def functionCode (title : String) (p : Parameters) (locals : List String) (isNested : Bool) :
    Datum :=
  let names := p.names ++ locals.filter (!p.names.contains ·)
  let flags : Int := 3 + (if p.rest.isSome then 4 else 0) + (if p.record.isSome then 8 else 0)
    + if isNested then 16 else 0
  thing "code" "<lambda>" [
    ("co_argcount", number p.plain.length), ("co_posonlyargcount", number p.unnamed),
    ("co_kwonlyargcount", number p.labelled.length), ("co_nlocals", number names.length),
    ("co_varnames", tuple (names.map text)), ("co_name", text "<lambda>"),
    ("co_qualname", text title), ("co_filename", text "<string>"),
    ("co_firstlineno", number 1), ("co_flags", number flags), ("co_freevars", tuple []),
    ("co_cellvars", tuple [])]

/-- A part of a function that a formula defines. -/
def functionPart? (title : String) (p : Parameters) (defaults : List (String × Datum))
    (locals : List String) (isNested : Bool) (world : Nat) (name : String) : Option Datum :=
  match name with
  | "__name__" => some (text "<lambda>")
  | "__qualname__" => some (text title)
  | "__defaults__" =>
    let ds := p.plain.filterMap (defaults.lookup ·)
    some (if ds.isEmpty then absent else tuple ds)
  | "__kwdefaults__" =>
    let ds := p.labelled.filterMap fun s => (defaults.lookup s).map (s, ·)
    some (if ds.isEmpty then absent else record (ds.map fun (s, _) => text s) (ds.map (·.2)))
  | "__code__" => some (functionCode title p locals isNested)
  | "__globals__" => some (shared world)
  | "__doc__" => some absent
  | "__closure__" => some absent
  | "__dict__" | "__annotations__" => some (record [] [])
  | _ => none

/-- A part of data by its name. -/
def part (d : Datum) (name : String) : Except Fault Datum :=
  match d with
  | entry t items own => entryPart d t items own name
  | thing "type" _ _ => ownTypePart d name
  | thing kind own parts => thingPart d kind own parts name
  | type t => typePart t name
  | function title p defaults _ locals frames world =>
    match functionPart? title p defaults locals (!frames.isEmpty) world name with
    | some p => .ok p
    | none => if name = "__class__" then .ok d.typeOf
      else if name = "__call__" || name = "__get__" then .ok (method d name) else ownMethod d name
  | attached f owner =>
    if name = "__self__" then .ok owner
    else if name = "__func__" then .ok f
    else if name = "__name__" then .ok (text (lastWord f.typeName))
    else ownMethod d name
  | d =>
    match d.numberPart? name, d.groupPart? name with
    | some p, _ => .ok p
    | none, some p => .ok p
    | none, none =>
      if name = "__class__" then .ok d.typeOf
      else if name = "__doc__" then .ok (if d.kind = .absent then absent else text d.kind.name)
      else
        match d with
        | builtin own | method _ own =>
          if name = "__name__" || name = "__qualname__" then .ok (text own)
          else if name = "__module__" then .ok (match d with
            | builtin own => text (placeOf own)
            | _ => absent)
          else if name = "__call__" then .ok d
          else
            match d with
            | method owner _ => if name = "__self__" then .ok owner else ownMethod d name
            | d => ownMethod d name
        | d => ownMethod d name

end Nsis.Datum
