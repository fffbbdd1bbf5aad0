import Nsis.Datum.Deflation

/-!
# Known functions

The functions and types that formulas can call by their names.

## Main definitions

* `Nsis.Datum.callBuiltin` — the value of a function that is known by its name.
* `Nsis.Datum.callType` — what a type makes of its arguments.
-/

namespace Nsis.Datum

/-! ### Characters -/

/-- The number of a character or byte. -/
def codeOf (d : Datum) : Except Fault Datum :=
  match d with
  | text s =>
    match s.toList with
    | [c] => .ok (number c.toNat)
    | cs => .error (.misuse (.notOneChar cs.length))
  | bytes [b] | buffer false [b] => .ok (number b.toNat)
  | bytes b | buffer false b => .error (.misuse (.notOneChar b.length))
  | d => .error (.misuse (.notChar d.kind))

/-- The character with a number. -/
def charOf (d : Datum) : Except Fault Datum := do
  let n ← wholeOf d
  if n < -0x80000000 || 0x80000000 ≤ n then throw (.misuse (.numeric .hugeWord))
  if n < 0 || 0x110000 ≤ n then throw (.misuse (.numeric .charNumber))
  return ofChar (Char.ofNat n.toNat)

/-! ### Groups -/

/-- Data as the bytes of a byte string or a buffer, which faults name. -/
def bytesFrom (function : String) (ds : List (Option Datum)) : Except Fault Bytes := do
  let (source, others) := (ds.headD none, ds.drop 1)
  if others.any Option.isSome then
    let (encoding, handler) ← encodingOf function others
    match source with
    | some (text s) =>
      if (others.headD none).isNone then throw (.misuse (.encoding .noEncoding))
      return ((← encoded s encoding handler).bytes?).getD []
    | _ => throw (.misuse (if (others.headD none).isSome then (.encoding .encodingWithout)
        else (.encoding .errorsWithout)))
  match source with
  | none => return []
  | some (text _) => throw (.misuse (.encoding .noEncoding))
  | some d =>
    match d.bytes?, d.number? with
    | some b, _ => return b
    | none, some n =>
      if n < 0 then throw (.misuse .negativeCount)
      return List.replicate (← copies 1 n) 0
    | none, none =>
      match d.members with
      | .ok items =>
        items.mapM (byteOf (.misuse (if function = "bytes" then .byteValues else .byteValue)))
      | .error _ =>
        throw (.misuse (if function = "bytes" then .notConvertible d.kind
          else .notConvertibleTo function d.kind))

/-- Data as a text. Byte strings are decoded if an encoding is given. -/
def textFrom (ds : List (Option Datum)) : Except Fault Datum := do
  match ds.headD none, ds.drop 1 with
  | none, others =>
    let _ ← encodingOf "str" others
    return text ""
  | some d, others =>
    if others.all Option.isNone then return text d.plain
    let (encoding, handler) ← encodingOf "str" others
    match d.bytes? with
    | some b => decoded b encoding handler
    | none => throw (.misuse (.encoding (.notDecodable d.kind)))

/-- A range from its bounds. -/
def rangeOf (ds : List Datum) : Except Fault Datum := do
  match ← ds.mapM wholeOf with
  | [] => throw (countFault "range" (.atLeast 1 0))
  | [stop] => return range 0 stop 1
  | [start, stop] => return range start stop 1
  | [start, stop, step] =>
    if step = 0 then throw (.misuse .zeroRangeStep)
    return range start stop step
  | ns => throw (countFault "range" (.atMost 3 ns.length))

/-- Whether data can be called. -/
def isCallable : Datum → Bool
  | function _ _ _ _ _ _ _ | attached _ _ | builtin _ | type _ | method _ _ => true
  | thing kind _ parts => ["type", "function", "method_descriptor", "wrapper_descriptor",
      "types.GenericAlias", "functools.partial"].contains kind
    || ((parts.lookup "__class__").bind (·.classPart? "__call__")).isSome
  | _ => false

/-! ### Packed data -/

/-- The value of a function for packed data. -/
def callPacking? (name : String) (a : Arguments) : Option (Except Fault Datum) :=
  if packingNames.contains name && name ≠ "unpack_from" && !a.labelled.isEmpty then
    some (.error (.misuse (.noLabels ("_struct." ++ name))))
  else
    match name, a.plain with
    | "calcsize", ds => some (match ds with
      | [d] => do return number (← Layout.ofDatum d).size
      | ds => .error (countFault "_struct.calcsize" (.exactlyOne ds.length)))
    | "pack", ds => some (match ds with
      | d :: ds => do (← Layout.ofDatum d).pack ds
      | [] => .error (.misuse (.packing .noLayoutGiven)))
    | "unpack", ds | "iter_unpack", ds => some do
      match ← between name 2 2 ds with
      | d :: ds => (← Layout.ofDatum d).call name { plain := ds }
      | [] => return absent
    | "unpack_from", _ => some do
      let args ← ordered name ["format", "buffer", "offset"] 1 2 a
      let l ← Layout.ofDatum ((args.headD none).getD absent)
      l.call name { plain := (args.drop 1).filterMap id }
    | _, _ => none

/-! ### Calls -/

/-- A slice from its bounds. -/
def sliceOf (ds : List Datum) : Except Fault Datum :=
  match ds with
  | [stop] => .ok (slice absent stop absent)
  | [start, stop] => .ok (slice start stop absent)
  | [start, stop, step] => .ok (slice start stop step)
  | ds => .error (countFault "slice" (if ds.isEmpty then .atLeast 1 0 else .atMost 3 ds.length))

/-- The only datum of a type, which takes no arguments. -/
def sole (d : Datum) (title : String) (a : Arguments) : Except Fault Datum :=
  if a.plain.isEmpty && a.labelled.isEmpty then .ok d
  else .error (.misuse (.noArgumentsOf title))

/-- What a type makes of its arguments, if it needs nothing else for it. -/
def callType (name : String) (a : Arguments) : Except Fault Datum :=
  match name with
  | "bool" => do return truth (((← optional name a).map holds).getD false)
  | "int" => do
    let base := a.labelled.lookup "base"
    onlyNamed name ["", "base"] 0 0 a
    match a.plain, base with
    | [], none => return number 0
    | [], some _ => throw (.misuse (.numeric .wholeWithout))
    | [d], none => whole d
    | [d], some b | [d, b], none => wholeInBase d b
    | ds, _ => throw (countFault name (.takesAtMost 2 ds.length))
  | "float" => do
    match ← optional name a with
    | some d => real d
    | none => return fraction 0
  | "complex" => do
    onlyNamed name ["real", "imag"] 0 0 a
    complexOf (a.plain ++ a.labelled.map (·.2))
  | "str" => do textFrom (← ordered name ["object", "encoding", "errors"] 0 0 a)
  | "bytes" => do
    return bytes (← bytesFrom name (← ordered name ["source", "encoding", "errors"] 0 0 a))
  | "bytearray" => do
    return buffer false (← bytesFrom name (← ordered name ["source", "encoding", "errors"] 0 0 a))
  | "memoryview" => do
    match ← ordered name ["object"] 0 1 a with
    | [some d] => match d.bytes? with
      | some b => return buffer true b
      | none => throw (.misuse (.noView d.kind))
    | _ => return absent
  | "range" => do rangeOf (← unlabelled name a)
  | "slice" => do sliceOf (← unlabelled name a)
  | "object" =>
    if a.plain.isEmpty && a.labelled.isEmpty then .ok (thing name "" [])
    else .error (.misuse (.noArguments name))
  | "Struct" | "_struct.Struct" => do
    let args ← ordered "Struct" ["format"] 0 1 a
    let d := (args.headD none).getD absent
    let l ← Layout.ofDatum d
    return Layout.datum ((d.bytes?.map fun b =>
      String.ofList (b.map fun c => Char.ofNat c.toNat)).getD d.plain) l.size
  | "NoneType" => sole absent "NoneType" a
  | "ellipsis" => sole (thing name "Ellipsis" []) "EllipsisType" a
  | "NotImplementedType" => sole notImplemented name a
  | name =>
    if isSubtype (type name) (type "BaseException") then do
      return thing name "" [("args", tuple (← unlabelled name a))]
    else .error (.misuse (.noInstances name))

/-- The functions of a single argument. -/
def callSingle? (name : String) (d : Datum) : Option (Except Fault Datum) :=
  match name with
  | "abs" => some (absolute d)
  | "bin" => some (marked 2 "0b" d)
  | "callable" => some (.ok (truth d.isCallable))
  | "chr" => some (charOf d)
  | "hash" => some ((fun d => number d.hashNumber) <$> d.asKey)
  | "hex" => some (marked 16 "0x" d)
  | "oct" => some (marked 8 "0o" d)
  | "ord" => some (codeOf d)
  | _ => none

/-- The functions of a single argument, which have no named ones. -/
def singleNames : List String := ["abs", "bin", "callable", "chr", "hash", "hex", "oct", "ord"]

/-- Whether a type belongs to another one, or to one of several. -/
def isSubclass (d t : Datum) : Except Fault Bool :=
  if d.isType then anyType (fun isItemised => .misuse (.notClasses isItemised)) (isSubtype d) t
  else .error (.misuse .notClass)

/-- The value of a function that is known by its name, if it needs nothing else for it. -/
def callBuiltin (name : String) (a : Arguments) : Except Fault Datum :=
  if singleNames.contains name then do
    let d ← single name a
    (callSingle? name d).getD (.ok absent)
  else
    match callPacking? name a, callDeflation? name a with
    | some r, _ => r
    | none, some r => r
    | none, none =>
      match name, a.plain with
      | "pow", ds => do
        onlyNamed name ["base", "exp", "mod"] 0 2 a
        power (ds ++ ["base", "exp", "mod"].filterMap fun l => a.labelled.lookup l)
      | "round", ds => do
        onlyNamed name ["number", "ndigits"] 0 1 a
        match ds ++ ["number", "ndigits"].filterMap (fun l => a.labelled.lookup l) with
        | d :: places => rounding d places.head?
        | [] => return absent
      | "divmod", ds => do
        match ← unlabelled name a with
        | [d, e] => quotientAndRemainder d e
        | _ => throw (countFault name (.exactly 2 ds.length))
      | "isinstance", ds => do
        match ← unlabelled name a with
        | [d, t] => truth <$> isOfType d t
        | _ => throw (countFault name (.exactly 2 ds.length))
      | "issubclass", _ => do
        match ← between name 2 2 (← unlabelled name a) with
        | [d, t] => truth <$> isSubclass d t
        | _ => return absent
      | _, _ => .ok absent

end Nsis.Datum
