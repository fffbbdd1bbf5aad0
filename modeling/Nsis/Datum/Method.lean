import Nsis.Datum.BytesMethod
import Nsis.Datum.Layout
import Nsis.Datum.Number

/-!
# Functions of data

What the functions that belong to data give, if they do not change the data.

## Main definitions

* `Nsis.Datum.callSpecial` — the value of a function with underscores at both ends.
* `Nsis.Datum.callMethod` — the value of a function of data.
-/

namespace Nsis.Datum

/-! ### Numbers -/

/-- How many bits of a number are set. -/
def bitCount (n : Nat) : Nat :=
  (Nat.toDigits 2 n).count '1'

/-- Whether the least significant byte comes first, as an argument says. -/
def isLittle (function : String) (d : Option Datum) : Except Fault Bool :=
  match d with
  | none | some (text "big") => .ok false
  | some (text "little") => .ok true
  | some (text _) => .error (.misuse (.numeric .byteOrder))
  | some d => .error (.misuse (.argumentKind function none "byteorder" "str" d.kind))

/-- Whether numbers have a sign, as an argument says. -/
def hasSign (a : Arguments) : Bool :=
  ((a.labelled.lookup "signed").map holds).getD false

/-- The arguments of a function that turns numbers and bytes into one another, but for the sign. -/
def unsignedArguments (function first : String) (required : Nat) (a : Arguments) :
    Except Fault (List (Option Datum)) := do
  let given := a.plain.length
  if 2 < given then throw (countFault function (.takesAtMostPlain 2 given))
  let others := a.labelled.filter (·.1 ≠ "signed")
  ordered function [first, "byteorder"] 0 required { a with labelled := others }

/-- The bytes of a number. -/
def bytesOfNumber (n : Int) (a : Arguments) : Except Fault Datum := do
  let args ← unsignedArguments "to_bytes" "length" 0 a
  let width ← (args.headD none).elim (pure 1) wholeOf
  let little ← isLittle "to_bytes" ((args.drop 1).headD none)
  if width < 0 then throw (.misuse (.numeric .negativeLength))
  let top : Int := Bits.weight (8 * min width.toNat 0x10000)
  if n < 0 && !hasSign a then throw (.misuse (.numeric .negativeUnsigned))
  let (low, high) := if hasSign a then (-(top / 2), top / 2) else (0, top)
  if n < low || high ≤ n then throw (.misuse (.numeric .numberTooBig))
  let b := Bytes.ofValue width.toNat (if n < 0 then n + top else n).toNat
  return bytes (if little then b else b.reverse)

/-- The value of a function of a whole number. -/
def callNumberMethod (n : Int) (name : String) (a : Arguments) : Except Fault Datum :=
  match name with
  | "bit_length" => .ok (number (if n = 0 then 0 else n.natAbs.log2 + 1))
  | "bit_count" => .ok (number (bitCount n.natAbs))
  | "as_integer_ratio" => .ok (tuple [number n, number 1])
  | "to_bytes" => bytesOfNumber n a
  | _ => .ok (number n)

/-- The bits of a fraction in hexadecimal digits, with an exponent of two. -/
def hexFraction (x : Float) : String :=
  if x.isNaN then "nan"
  else if x.isInf then if x < 0 then "-inf" else "inf"
  else
    let b := Text.Binary.ofFloat x
    let unit : Nat := 0x10000000000000
    let sign := if x < 0 || (x == 0 && x.toBits ≠ 0) then "-" else ""
    if b.mantissa = 0 then sign ++ "0x0.0p+0"
    else
      let exponent := b.exponent + 52
      sign ++ "0x" ++ Text.decimal (b.mantissa / unit : Nat) ++ "."
        ++ String.ofList (Text.padded 13 (b.mantissa % unit)) ++ "p"
        ++ (if exponent < 0 then "" else "+") ++ Text.decimal exponent

/-- The value of a function of a fraction. -/
def callFractionMethod (x : Float) (name : String) : Except Fault Datum :=
  match name with
  | "is_integer" => .ok (truth (Fraction.isFinite x && x.floor == x))
  | "as_integer_ratio" =>
    if Fraction.isFinite x then
      let (n, d) := Fraction.parts x
      let k := Nat.gcd n.natAbs d
      .ok (tuple [number (n / k), number ((d / k : Nat) : Int)])
    else .error (.misuse (if x.isNaN then (.numeric .noRatio) else (.numeric .infiniteRatio)))
  | "hex" => .ok (text (hexFraction x))
  | _ => .ok (fraction x)

/-! ### Groups -/

/-- The number of the first item that is equal to a datum, within the bounds of a search. -/
def indexIn? (items : List Datum) (d : Datum) (bounds : List Datum) :
    Except Fault (Option Nat) := do
  let part ← searchedPart items bounds
  return part.bind fun (ys, start) => (ys.findIdx? (equals d)).map (· + start)

/-- The value of a function of a tuple or range. -/
def callTupleMethod (isRange : Bool) (items : List Datum) (name : String) (a : Arguments) :
    Except Fault Datum :=
  match name, a.plain with
  | "count", [d] => .ok (number (items.countP (equals d)))
  | "index", d :: bounds => do
    match ← indexIn? items d bounds with
    | some i => return number i
    | none => throw (.misuse (if isRange then .notInRange d.shown else .notInTuple))
  | _, _ => .ok absent

/-- The items of the arguments of a function of a set, as keys. -/
def setArguments (ds : List Datum) : Except Fault (List (List Datum)) :=
  ds.mapM fun d => do (← d.members).mapM asKey

/-- The value of a function of a set that leaves it as it is. -/
def callSetMethod (make : List Datum → Datum) (items : List Datum) (name : String)
    (a : Arguments) : Except Fault Datum := do
  let others ← setArguments a.plain
  let first := others.headD []
  match name with
  | "union" => return make (others.foldl unitedItems (relaid items))
  | "intersection" => return make (others.foldl commonItems (relaid items))
  | "difference" => return make (others.foldl otherItems (relaid items))
  | "symmetric_difference" => return make (unsharedItems items (laidOut first))
  | "copy" => return make (relaid items)
  | "issubset" => return truth (subset items first)
  | "issuperset" => return truth (subset first items)
  | "isdisjoint" => return truth (!items.any (isAmong first))
  | _ => return absent

/-- The bounds of a slice through a number of items. -/
def sliceIndices (start stop step : Datum) (d : Datum) : Except Fault Datum := do
  let n ← wholeOf d
  if n < 0 then throw (.misuse .negativeLengthGiven)
  let step := (← bound step).getD 1
  if step = 0 then throw (.misuse .zeroStep)
  let (low, high) : Int × Int := if step < 0 then (-1, n - 1) else (0, n)
  let first := ((← bound start).map (clamped n low high)).getD (if step < 0 then high else low)
  let last := ((← bound stop).map (clamped n low high)).getD (if step < 0 then low else high)
  return tuple [number first, number last, number step]

/-- The value of a function of a view of bytes. -/
def callViewMethod (b : Bytes) (name : String) (a : Arguments) : Except Fault Datum :=
  match name with
  | "tobytes" => .ok (bytes b)
  | "tolist" => .ok (list (b.map ofByte))
  | "hex" => hexOf b a
  | "release" => .ok absent
  | _ => .ok (buffer true b)

/-! ### Functions of types -/

/-- Data as bytes that a number is made of. -/
def numberBytes (d : Datum) : Except Fault Bytes :=
  match d, d.bytes? with
  | _, some b => .ok b
  | text _, _ | number _, _ | truth _, _ => .error (.misuse (.notConvertible d.kind))
  | d, _ =>
    match d.members with
    | .error _ => .error (.misuse (.notConvertible d.kind))
    | .ok items => items.mapM fun e => do
      let n ← wholeOf e
      if n < 0 || 256 ≤ n then throw (.misuse .byteValues)
      return UInt8.ofNat n.toNat

/-- The number of bytes, the most significant one first unless told otherwise. -/
def numberOfBytes (a : Arguments) : Except Fault Datum := do
  let args ← unsignedArguments "from_bytes" "bytes" 1 a
  let little ← isLittle "from_bytes" ((args.drop 1).headD none)
  let b ← numberBytes ((args.headD none).getD absent)
  return number (({ big := !little } : Layout).numberOf (hasSign a) b)

/-- The bytes that pairs of digits stand for, with blanks between them. -/
def ofHexDigits (position : Nat) : (fuel : Nat) → List Char → Except Fault Bytes
  | 0, _ | _, [] => .ok []
  | fuel + 1, c :: cs =>
    if Text.isBlank c then ofHexDigits (position + 1) fuel cs
    else
      match Text.digitValue? 16 c, cs with
      | some h, d :: rest =>
        match Text.digitValue? 16 d with
        | some l => (UInt8.ofNat (16 * h + l) :: ·) <$> ofHexDigits (position + 2) fuel rest
        | none => .error (.misuse (.nonHex (position + 1)))
      | some _, [] => .error (.misuse (.nonHex (position + 1)))
      | none, _ => .error (.misuse (.nonHex position))

/-- The fraction that hexadecimal digits with an exponent of two are, if they are one. -/
def ofHexFraction? (s : String) : Option Float :=
  let cs := (Text.trimmed s.toList).map Char.toLower
  let (minus, cs) := match cs with
    | '-' :: rest => (true, rest)
    | '+' :: rest => (false, rest)
    | cs => (false, cs)
  let cs := match cs with
    | '0' :: 'x' :: rest => rest
    | cs => cs
  let signed := Fraction.signed minus
  if String.ofList cs = "inf" || String.ofList cs = "infinity" then some (signed (1 / 0))
  else if String.ofList cs = "nan" then some (0 / 0)
  else
    let mantissa := cs.takeWhile (· ≠ 'p')
    let exponent := (cs.dropWhile (· ≠ 'p')).drop 1
    let whole := mantissa.takeWhile (· ≠ '.')
    let part := (mantissa.dropWhile (· ≠ '.')).drop 1
    let digits := (whole ++ part).map (Text.digitValue? 16)
    let power := if cs.contains 'p' then Text.signedDecimal? exponent else some 0
    match power with
    | some k =>
      if digits.isEmpty || digits.any Option.isNone then none
      else
        let n := Text.ofDigits 16 (digits.filterMap id)
        let k := k - 4 * part.length
        if 100000 < k.natAbs then some (signed (if k < 0 || n = 0 then 0 else 1 / 0))
        else some (signed (Fraction.nearest (n * Nat.pow 2 k.toNat) (Nat.pow 2 (-k).toNat)))
    | none => none

/-- The value of a function of a type. -/
def callTypeMethod (type name : String) (a : Arguments) : Except Fault Datum := do
  if name ≠ "from_bytes" && !a.labelled.isEmpty then
    throw (.misuse (.noLabels (type ++ "." ++ name)))
  match name, a.plain with
  | "from_bytes", _ => numberOfBytes a
  | "fromhex", [d] =>
    match d with
    | text s =>
      if type = "float" then
        match ofHexFraction? s with
        | some x => .ok (fraction x)
        | none => .error (.misuse (.numeric .badHexFraction))
      else do
        let b ← ofHexDigits 0 s.length s.toList
        return if type = "bytearray" then buffer false b else bytes b
    | d =>
      .error (.misuse (if type = "float" then .badKind
        else .argumentKind name none "" "str" d.kind))
  | "fromhex", ds => .error (countFault (type ++ ".fromhex") (.exactlyOne ds.length))
  | "fromkeys", ds => do
    match ← between name 1 2 ds with
    | d :: rest =>
      let keys ← (← d.members).mapM asKey
      let value := rest.headD absent
      let (keys, values) := keys.foldl (fun (ks, vs) k => insert ks vs k value) ([], [])
      return record keys values
    | [] => return absent
  | "maketrans", ds => if type = "str" then do tableOf (← between name 1 3 ds) else bytesTable ds
  | _, _ => .ok absent

/-! ### Operations as functions -/

/-- What an operation gives that is not there for its operands. -/
def notImplemented : Datum :=
  thing "NotImplementedType" "NotImplemented" []

/-- Whether the functions of data that stand for operations and relations take another datum. -/
def understands (owner d : Datum) : Bool :=
  match owner, owner.number?, d.number? with
  | _, some _, n => n.isSome
  | fraction _, _, n => n.isSome || d.kind = .fraction
  | complex _ _, _, n => n.isSome || d.kind = .fraction || d.kind = .complex
  | tuple _, _, _ | entry _ _ _, _, _ => d.tupleItems?.isSome
  | set _, _, _ | fixedSet _, _, _ => d.setItems?.isSome
  | owner, _, _ => owner.kind = d.kind

/-- Whether data are a number. -/
def isNumeric (d : Datum) : Bool :=
  d.number?.isSome || d.kind = .fraction || d.kind = .complex

/-- The value of an operation as a function. -/
def callOperation (o : Operation) (isReflected : Bool) (owner d : Datum) : Except Fault Datum :=
  if owner.isNumeric && !owner.understands d then .ok notImplemented
  else
    match if isReflected then combine o d owner else combine o owner d with
    | .error (.noOperation _ _ _) => .ok notImplemented
    | r => r

/-- The value of a relation as a function. -/
def callRelation (r : Relation) (owner d : Datum) : Except Fault Datum :=
  if !owner.understands d then .ok notImplemented
  else
    match r with
    | .equal => .ok (truth (equals owner d))
    | .unequal => .ok (truth (!equals owner d))
    | r =>
      match isBefore r owner d with
      | .error (.noOrder _ _ _) => .ok notImplemented
      | a => truth <$> a

/-- How many bytes of memory data take, where that does not hang on how they came about. -/
def room? : Datum → Option Nat
  | absent => some 16
  | truth _ => some 28
  | fraction _ => some 24
  | complex _ _ => some 32
  | text s =>
    let widest := s.toList.foldl (fun n c => max n c.toNat) 0
    some (if widest < 0x80 then 49 + s.length
      else if widest < 0x100 then 73 + s.length
      else if widest < 0x10000 then 74 + 2 * s.length
      else 76 + 4 * s.length)
  | bytes b => some (33 + b.length)
  | tuple items | entry _ items _ => some (24 + 8 * items.length)
  | list items => some (40 + 8 * items.length)
  | range _ _ _ => some 48
  | d => d.number?.map fun n => 28 + 4 * (n.natAbs.log2 / 30)

/-- The value of a function of a number with underscores at both ends. -/
def callNumberSpecial? (owner : Datum) (name : String) : Option (Except Fault Datum) :=
  let wholeBy := fun (round : Float → Int) => match owner, owner.number? with
    | _, some n => Except.ok (number n)
    | fraction x, _ => number <$> Fraction.toInt round x
    | d, _ => .ok d
  match name with
  | "__bool__" => some (.ok (truth owner.holds))
  | "__neg__" => some (applied .negative owner)
  | "__pos__" => some (applied .positive owner)
  | "__invert__" => some (applied .complement owner)
  | "__index__" => some (number <$> wholeOf owner)
  | "__int__" | "__trunc__" => some (wholeBy Fraction.truncated)
  | "__floor__" => some (wholeBy Fraction.floor)
  | "__ceil__" => some (wholeBy fun x => -Fraction.floor (-x))
  | "__round__" => some (rounding owner none)
  | "__complex__" => some (.ok owner)
  | "__float__" => match owner, owner.number? with
    | _, some n => some (fraction <$> Fraction.ofInt n)
    | d, _ => some (.ok d)
  | "__abs__" => some (absolute owner)
  | "__sizeof__" => owner.room?.map fun n => .ok (number n)
  | _ => none

/-- A quotient with its remainder as a function of one of its operands. -/
def callPair (d e : Datum) (understood : Bool) : Except Fault Datum :=
  if understood then quotientAndRemainder d e else .ok notImplemented

/-- The value of a function with underscores at both ends. -/
def callSpecial (owner : Datum) (name : String) (a : Arguments) : Except Fault Datum :=
  match operationMethods.lookup name, reflectedMethods.lookup name, relationMethods.lookup name,
    a.plain with
  | some o, _, _, [d] => callOperation o false owner d
  | _, some o, _, [d] => callOperation o true owner d
  | _, _, some r, [d] => callRelation r owner d
  | o, o', r, args =>
    match callNumberSpecial? owner name, name, args with
    | some v, _, [] => v
    | _, "__round__", [d] => rounding owner (some d)
    | _, "__divmod__", [d] => callPair owner d (understands owner d)
    | _, "__rdivmod__", [d] => callPair d owner (understands owner d)
    | _, "__len__", [] => (fun n : Nat => number n) <$> owner.size
    | _, "__contains__", [d] => truth <$> owner.contains d
    | _, "__getitem__", [d] => owner.item d
    | _, "__subclasshook__", _ => .ok notImplemented
    | _, "__hash__", [] => (fun d => number d.hashNumber) <$> owner.asKey
    | _, "__format__", [d] =>
      match d with
      | text f => text <$> formatted owner f
      | d => .error (.misuse (.argumentKind name none "" "str" d.kind))
    | _, "__str__", [] => .ok (text owner.plain)
    | _, "__repr__", [] => .ok (text owner.shown)
    | _, "__getnewargs__", [] => .ok (match owner with
      | entry _ items _ => tuple items
      | complex x y => tuple [fraction x, fraction y]
      | truth b => tuple [number (if b then 1 else 0)]
      | d => tuple [d])
    | v, name, args =>
      let wanted := if o.isSome || o'.isSome || r.isSome || name = "__contains__"
        || name = "__getitem__" || name = "__format__" || name = "__divmod__"
        || name = "__rdivmod__" || name = "__getattribute__" || name = "__delattr__" then 1
        else if name = "__setattr__" then 2 else 0
      if args.length = wanted && v.isNone then .ok absent
      else .error (.misuse (.expected wanted args.length))

/-- Data with bytes that can be changed in the place of byte strings. -/
def inBuffers : Datum → Datum
  | bytes b => buffer false b
  | list items => list (items.map fun
    | bytes b => buffer false b
    | d => d)
  | tuple items => tuple (items.map fun
    | bytes b => buffer false b
    | d => d)
  | d => d

/-- Refuse arguments that a function of data does not take. -/
def checkArguments (owner : Datum) (name : String) (a : Arguments) : Except Fault Unit := do
  let kind := match owner with
    | type t => t
    | entry _ _ _ => "tuple"
    | d => d.kind.name
  let isLabelled := labelledMethods.contains name || (name = "translate" && kind ≠ "str")
  if !a.labelled.isEmpty && !isLabelled then throw (.misuse (.noLabels (kind ++ "." ++ name)))
  let k := match owner with
    | entry _ _ _ => Kind.tuple
    | d => d.kind
  if let some arity := methodArity? k name then arity.check kind name a.plain.length

/-- The value of a function of data. -/
def callMethod (owner : Datum) (name : String) (a : Arguments) : Except Fault Datum :=
  if name.startsWith "__" then callSpecial owner name a
  else if typeFunctions.contains name then
    match owner with
    | type t => callTypeMethod t name a
    | d => callTypeMethod d.kind.name name a
  else do
    checkArguments owner name a
    match owner, owner.number? with
    | _, some n => callNumberMethod n name a
    | fraction x, _ => callFractionMethod x name
    | complex x y, _ => return complex x (-y)
    | text s, _ => callTextMethod s name a
    | bytes b, _ => callBytesMethod b name a
    | buffer false b, _ => inBuffers <$> callBytesMethod b name a
    | buffer true b, _ => callViewMethod b name a
    | tuple items, _ | entry _ items _, _ => callTupleMethod false items name a
    | range x y z, _ => callTupleMethod true (rangeItems x y z) name a
    | set items, _ => callSetMethod set items name a
    | fixedSet items, _ => callSetMethod fixedSet items name a
    | series _ items, _ => callSetMethod set items name a
    | slice start stop step, _ =>
      match a.plain with
      | [d] => sliceIndices start stop step d
      | ds => throw (countFault "slice.indices" (.exactlyOne ds.length))
    | type t, _ => callTypeMethod t name a
    | thing _ _ parts, _ =>
      match parts.lookup "format" with
      | some format => do (← Layout.ofDatum format).call name a
      | none => return owner
    | d, _ => return d

end Nsis.Datum
