import Nsis.Bits
import Nsis.Datum.Hash
import Nsis.Datum.Template

/-!
# Operations on data

Operations combine numbers, which may have fractions, and bits. Texts and lists can be appended and
repeated, and sets and records be united. All other pairs of kinds have no operation.

## Main definitions

* `Nsis.Datum.applied` — operations on one datum.
* `Nsis.Datum.combine` — operations on two data.
-/

namespace Nsis.Datum

/-- An operation on one datum. -/
def applied (o : Operation.Unary) (d : Datum) : Except Fault Datum :=
  match o, d, d.number? with
  | .positive, _, some n => .ok (number n)
  | .negative, _, some n => .ok (number (-n))
  | .complement, _, some n => .ok (number (Bits.complement n))
  | .positive, fraction x, _ => .ok (fraction x)
  | .negative, fraction x, _ => .ok (fraction (-x))
  | .positive, complex x y, _ => .ok (complex x y)
  | .negative, complex x y, _ => .ok (complex (-x) (-y))
  | o, d, _ => .error (.noUnary o d.kind)

/-! ### Whole numbers -/

/-- How many bits there is memory for. -/
def bitRoom : Nat := 0x40000000

/-- A number moved up by `k` bits. -/
def shiftedUp (n k : Int) : Except Fault Datum :=
  if k < 0 then .error .negativeShift
  else if n = 0 then .ok (number 0)
  else if !Signed.fits k then .error .hugeNumber
  else if bitRoom < k.toNat then .error .noMemory
  else .ok (number (n * Bits.weight k.toNat))

/-- A number moved down by `k` bits; the bits that fall out are lost. -/
def shiftedDown (n k : Int) : Except Fault Datum :=
  if k < 0 then .error .negativeShift
  else .ok (number (n / Bits.weight (min k.toNat (n.natAbs.log2 + 1))))

/-- A product of numbers with imaginary parts. -/
def complexProduct (z w : Float × Float) : Float × Float :=
  (z.1 * w.1 - z.2 * w.2, z.1 * w.2 + z.2 * w.1)

/-- A quotient of numbers with imaginary parts, of which the second one is not zero. The larger one
of its parts divides the other. -/
def complexQuotient (z w : Float × Float) : Float × Float :=
  if w.2.abs ≤ w.1.abs then
    let ratio := w.2 / w.1
    let d := w.1 + w.2 * ratio
    ((z.1 + z.2 * ratio) / d, (z.2 - z.1 * ratio) / d)
  else
    let ratio := w.1 / w.2
    let d := w.1 * ratio + w.2
    ((z.1 * ratio + z.2) / d, (z.2 * ratio - z.1) / d)

/-- A number with an imaginary part times the powers of another one that the bits of an exponent
choose. -/
def complexPower (z r : Float × Float) : (fuel exponent : Nat) → Float × Float
  | 0, _ => r
  | fuel + 1, n =>
    if n = 0 then r
    else complexPower (complexProduct z z)
      (if n % 2 = 1 then complexProduct r z else r) fuel (n / 2)

/-- A power with an imaginary part, unless it is too large. -/
def complexWithin (z : Float × Float) : Except Fault Datum :=
  if z.1.isInf || z.2.isInf then .error (.misuse (.numeric .hugeComplexPower))
  else .ok (complex z.1 z.2)

/-- A number with an imaginary part, which is not zero, raised to any power, by its size and its
angle. An angle that is too large has no place on the circle. -/
def complexRaised (z w : Float × Float) : Except Fault Datum :=
  let size := Fraction.diagonal z.1 z.2
  let angle := Float.atan2 z.2 z.1
  let length := size.pow w.1
  let phase := angle * w.1
  let (length, phase) := if w.2 == 0 then (length, phase)
    else (length / Float.exp (angle * w.2), phase + w.2 * Float.log size)
  if phase.isInf then .error (.misuse (.numeric .zeroComplexPower))
  else complexWithin (length * Float.cos phase, length * Float.sin phase)

/-- A fraction raised to a power. -/
def raisedFraction (x y : Float) : Except Fault Datum :=
  if x == 0 && y < 0 then .error (.zeroDivisor .power)
  else if x < 0 && Fraction.isFinite x && Fraction.isFinite y && !(y.floor == y) then
    complexRaised (x, 0) (y, 0)
  else
    let z := x.pow y
    if z.isInf && Fraction.isFinite x && Fraction.isFinite y then
      .error (.misuse (.numeric .hugePower))
    else .ok (fraction z)

/-- A power of whole numbers. Negative exponents give fractions. -/
def raised (n k : Int) : Except Fault Datum :=
  if k < 0 then
    if n = 0 then .error (.zeroDivisor .power)
    else do raisedFraction (← Fraction.ofInt n) (← Fraction.ofInt k)
  else if 1 < n.natAbs && bitRoom < n.natAbs.log2 * k.toNat then .error .noMemory
  else if n = 0 then .ok (number (if k = 0 then 1 else 0))
  else if n = 1 then .ok (number 1)
  else if n = -1 then .ok (number (if k % 2 = 0 then 1 else -1))
  else .ok (number (Int.pow n k.toNat))

/-- An operation on two whole numbers. Quotients are rounded down, and remainders have the sign of
the divisor. -/
def calculated (o : Operation) (m n : Int) : Except Fault Datum :=
  match o with
  | .bitwiseOr => .ok (number (Bits.either m n))
  | .bitwiseXor => .ok (number (Bits.oneOf m n))
  | .bitwiseAnd => .ok (number (Bits.both m n))
  | .shiftLeft => shiftedUp m n
  | .shiftRight => shiftedDown m n
  | .plus => .ok (number (m + n))
  | .minus => .ok (number (m - n))
  | .times => .ok (number (m * n))
  | .division => if n = 0 then .error (.zeroDivisor o) else fraction <$> Fraction.divide m n
  | .quotient => if n = 0 then .error (.zeroDivisor o) else .ok (number (Int.fdiv m n))
  | .remainder => if n = 0 then .error (.zeroDivisor o) else .ok (number (Int.fmod m n))
  | .power => raised m n
  | .matrixTimes => .error (.noOperation o .number .number)

/-! ### Fractions -/

/-- Data as a fraction, if they are a number. -/
def fraction? (d : Datum) : Option (Except Fault Float) :=
  match d, d.number? with
  | fraction x, _ => some (.ok x)
  | _, some n => some (Fraction.ofInt n)
  | _, _ => none

/-- An operation on two fractions, if there is one. -/
def fractional? (o : Operation) (x y : Float) : Option (Except Fault Datum) :=
  match o with
  | .plus => some (.ok (fraction (x + y)))
  | .minus => some (.ok (fraction (x - y)))
  | .times => some (.ok (fraction (x * y)))
  | .division => some (if y == 0 then .error (.zeroFraction o) else .ok (fraction (x / y)))
  | .quotient =>
    some (if y == 0 then .error (.zeroFraction o) else .ok (fraction (Fraction.divMod x y).1))
  | .remainder =>
    some (if y == 0 then .error (.zeroFraction o) else .ok (fraction (Fraction.divMod x y).2))
  | .power => some (raisedFraction x y)
  | _ => none

/-- Data as a number with an imaginary part, if they are a number. -/
def complex? (d : Datum) : Option (Except Fault (Float × Float)) :=
  match d with
  | complex x y => some (.ok (x, y))
  | d => d.fraction?.map fun x => do return (← x, 0)

/-- The number with a real and an imaginary part. -/
def ofParts (z : Float × Float) : Datum :=
  complex z.1 z.2

/-- An operation on two numbers with imaginary parts, if there is one. -/
def complexly? (o : Operation) (x y u v : Float) : Option (Except Fault Datum) :=
  match o with
  | .plus => some (.ok (complex (x + u) (y + v)))
  | .minus => some (.ok (complex (x - u) (y - v)))
  | .times => some (.ok (ofParts (complexProduct (x, y) (u, v))))
  | .division =>
    some (if u == 0 && v == 0 then .error (.misuse (.numeric .zeroComplexDivisor))
      else .ok (ofParts (complexQuotient (x, y) (u, v))))
  | .power =>
    some (if x == 0 && y == 0 && (u < 0 || !(v == 0)) then
        .error (.misuse (.numeric .zeroComplexPower))
      else if v == 0 && u.floor == u && u.abs ≤ 100 then
        let r := complexPower (x, y) (1, 0) 64 u.abs.toUInt64.toNat
        if 0 < u then complexWithin r
        else if r.1 == 0 && r.2 == 0 then .error (.misuse (.numeric .zeroComplexPower))
        else complexWithin (complexQuotient (1, 0) r)
      else if x == 0 && y == 0 then .ok (complex 0 0)
      else complexRaised (x, y) (u, v))
  | _ => none

/-! ### Groups -/

/-- How many copies of a sequence of `size` items a repetition has. What there is no memory for is
refused, and of the rest as much is kept as there is room for. -/
def copies (size : Nat) (count : Int) : Except Fault Nat :=
  if !Signed.fits count then .error .hugeCount
  else if memoryRoom ≤ size * count.toNat then .error .noMemory
  else .ok (min count.toNat (itemRoom / (max 1 size)))

/-- A sequence that is repeated as often as a number says, if it is one. -/
def repeated? (sequence : Datum) (count : Int) : Option (Except Fault Datum) :=
  let times := fun {α : Type} (xs : List α) (make : List α → Datum) => do
    return make (List.replicate (← copies xs.length count) xs).flatten
  match sequence with
  | text s => some (times s.toList fun cs => text (String.ofList cs))
  | bytes b => some (times b bytes)
  | buffer false b => some (times b (buffer false))
  | list items => some (times items list)
  | tuple items | entry _ items _ => some (times items tuple)
  | _ => none

/-- Whether data are a sequence that can be repeated. -/
def isSequence : Datum → Bool
  | text _ | bytes _ | buffer false _ | list _ | tuple _ | entry _ _ _ => true
  | _ => false

/-- A sequence with another one appended, if the first datum is a sequence. -/
def appended? (d e : Datum) : Option (Except Fault Datum) :=
  match d, e with
  | text s, text t => some (.ok (text (s ++ t)))
  | text _, e => some (.error (.notText e.kind))
  | bytes b, e | buffer false b, e =>
    match e.bytes? with
    | some c => some (.ok (match d with
      | buffer _ _ => buffer false (b ++ c)
      | _ => bytes (b ++ c)))
    | none => some (.error (.misuse (.notBytes d.kind e.kind)))
  | list xs, list ys => some (.ok (list (xs ++ ys)))
  | list _, e => some (.error (.notList e.kind))
  | tuple xs, e | entry _ xs _, e =>
    match e.tupleItems? with
    | some ys => some (.ok (tuple (xs ++ ys)))
    | none => some (.error (.misuse (.notTuple e.kind)))
  | _, _ => none

/-- The keys or entries of a record, which behave like a set. -/
def isKeyView (d : Datum) : Bool :=
  match d with
  | series kind _ => kind = "dict_keys" || kind = "dict_items"
  | _ => false

/-- Whether an item is among others. -/
def isAmong (items : List Datum) (d : Datum) : Bool :=
  items.any (equals d)

/-- The items that two sets have in common, which the smaller set gives. -/
def commonItems (xs ys : List Datum) : List Datum :=
  if xs.length < ys.length then laidOut (xs.filter (isAmong ys))
  else laidOut (ys.filter (isAmong xs))

/-- The items of a set that are not in another one. -/
def otherItems (xs ys : List Datum) : List Datum :=
  if ys.length < xs.length / 4 then (relaid xs).filter (!isAmong ys ·)
  else laidOut (xs.filter (!isAmong ys ·))

/-- The items that are in one of two sets only. -/
def unsharedItems (xs ys : List Datum) : List Datum :=
  (unitedItems ys (xs.filter (!isAmong ys ·))).filter fun d => !(isAmong xs d && isAmong ys d)

/-- The items of an operation on two sets, if there is one. -/
def united? (o : Operation) (xs ys : List Datum) : Option (List Datum) :=
  match o with
  | .bitwiseOr => some (unitedItems xs ys)
  | .bitwiseAnd => some (commonItems xs ys)
  | .bitwiseXor => some (unsharedItems xs ys)
  | .minus => some (otherItems xs ys)
  | _ => none

/-- The entries of a record with those of another one. -/
def merged (keys values : List Datum) (others : List (Datum × Datum)) : List Datum × List Datum :=
  others.foldl (fun (ks, vs) (k, v) => insert ks vs k v) (keys, values)

/-- The types of one of which data can be. -/
def alternatives? : Datum → Option (List Datum)
  | thing "types.UnionType" _ parts => (parts.lookup "__args__").bind tupleItems?
  | d@(thing "types.GenericAlias" _ _) => some [d]
  | d => if d.isType then some [d] else none

/-- What is one of several types. -/
def union (types : List Datum) : Datum :=
  match types with
  | [t] => t
  | types =>
    thing "types.UnionType" (String.intercalate " | " (types.map typeTitle))
      [("__args__", tuple types)]

/-- A type or another one. Nothing counts as a type beside one. -/
def eitherType? (d e : Datum) : Option Datum :=
  let alternatives := fun (d : Datum) => match d with
    | absent => some [type "NoneType"]
    | d => d.alternatives?
  match d, e, alternatives d, alternatives e with
  | absent, absent, _, _ => none
  | _, _, some ss, some ts => some (union (ss ++ ts.filter (!isAmong ss ·)))
  | _, _, _, _ => none

/-- An operation on two groups, if there is one. Sets are of the kind of the first one. -/
def grouped? (o : Operation) (d e : Datum) : Option (Except Fault Datum) :=
  match o, d, e with
  | .bitwiseOr, record ks vs, record ls ws =>
    let (keys, values) := merged ks vs (ls.zip ws)
    some (.ok (record keys values))
  | o, d, e =>
    if (d.isKeyView || e.isKeyView)
      && [Operation.bitwiseOr, .bitwiseAnd, .bitwiseXor, .minus].contains o then
      some do
        let xs ← d.members
        let ys ← e.members
        return set ((united? o xs ys).getD [])
    else
      match setItems? d, setItems? e with
      | some xs, some ys => (united? o xs ys).map fun items => .ok (match d with
        | fixedSet _ => fixedSet items
        | _ => set items)
      | _, _ => if o = .bitwiseOr then (eitherType? d e).map .ok else none

/-- An operation on two data. Truth values keep to themselves under the operations on bits. -/
def combine (o : Operation) (d e : Datum) : Except Fault Datum :=
  match o, d, e with
  | .bitwiseOr, truth x, truth y => .ok (truth (x || y))
  | .bitwiseXor, truth x, truth y => .ok (truth (x != y))
  | .bitwiseAnd, truth x, truth y => .ok (truth (x && y))
  | .remainder, text _, e => filled d e
  | .remainder, bytes _, e => filled d e
  | .remainder, buffer false b, e => do
    match ← filled (bytes b) e with
    | bytes c => return buffer false c
    | d => return d
  | .matrixTimes, d, e => .error (.noOperation o d.kind e.kind)
  | o, d, e =>
    let refused : Except Fault Datum := .error (.noOperation o d.kind e.kind)
    match d.number?, e.number? with
    | some m, some n => calculated o m n
    | m?, n? =>
      match d.fraction?, e.fraction?, d.complex?, e.complex? with
      | some x, some y, _, _ => do
        match fractional? o (← x) (← y) with
        | some r => r
        | none => refused
      | _, _, some z, some w => do
        let (x, y) ← z
        let (u, v) ← w
        match complexly? o x y u v with
        | some r => r
        | none => refused
      | _, _, _, _ =>
        match o with
        | .plus => (appended? d e).getD refused
        | .times =>
          if d.isSequence then
            match n? with
            | some n => (repeated? d n).getD refused
            | none => .error (.notCount e.kind)
          else if e.isSequence then
            match m? with
            | some m => (repeated? e m).getD refused
            | none => .error (.notCount d.kind)
          else refused
        | o => (grouped? o d e).getD refused

end Nsis.Datum
