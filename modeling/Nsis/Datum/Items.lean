import Nsis.Datum.Order
import Nsis.Signed

/-!
# Items of data

Groups have items: lists, tuples, sets, ranges and series of any data, texts of characters, byte
strings of numbers, and records of keys. Most groups number their items and have slices.

## Main definitions

* `Nsis.Datum.members` — the items of a group.
* `Nsis.Datum.size` — how many items there are.
* `Nsis.Datum.item` — the item at a position, or the items of a slice.
* `Nsis.Datum.contains` — whether a group has an item.
-/

namespace Nsis.Datum

/-- How many items there is room for. -/
def itemRoom : Nat := 0x400000

/-- From how many items on there is no memory for them. -/
def memoryRoom : Nat := 0x10000000000

/-- How many numbers of a range are looked at. -/
def rangeRoom : Nat := 0x400000

/-- The numbers of a range. -/
def rangeItems (start stop step : Int) : List Datum :=
  (List.range (min rangeRoom (rangeSize start stop step))).map fun (i : Nat) =>
    number (start + i * step)

/-- A text of one character. -/
def ofChar (c : Char) : Datum :=
  text (String.ofList [c])

/-- A byte as a number. -/
def ofByte (b : UInt8) : Datum :=
  number b.toNat

/-- The items of a group. -/
def members : Datum → Except Fault (List Datum)
  | list items | tuple items | set items | fixedSet items | series _ items | entry _ items _ =>
    .ok items
  | text s => .ok (s.toList.map ofChar)
  | bytes b | buffer _ b => .ok (b.map ofByte)
  | record keys _ => .ok keys
  | range start stop step => .ok (rangeItems start stop step)
  | d => .error (.notGroup d.kind)

/-- How many items there are. Series do not tell. -/
def size : Datum → Except Fault Nat
  | list items | tuple items | set items | fixedSet items | entry _ items _ => .ok items.length
  | text s => .ok s.length
  | bytes b | buffer _ b => .ok b.length
  | record keys _ => .ok keys.length
  | range start stop step => .ok (rangeSize start stop step)
  | series kind items =>
    if ["dict_keys", "dict_values", "dict_items"].contains kind then .ok items.length
    else .error (.noLength (.other kind))
  | d => .error (.noLength d.kind)

/-! ### Slices -/

/-- A bound of a slice. -/
def bound (d : Datum) : Except Fault (Option Int) :=
  match d, d.number? with
  | absent, _ => .ok none
  | _, some n => .ok (some n)
  | _, _ => .error (.misuse .badBound)

/-- A bound of a slice through `n` items, from `low` up to `high`; a negative one counts from the
end. -/
def clamped (n low high : Int) (i : Int) : Int :=
  max low (min high (if i < 0 then i + n else i))

/-- The positions of a slice through `n` items. -/
def positions (start stop : Option Int) (step : Int) (n : Nat) : List Nat :=
  let (low, high) : Int × Int := if step < 0 then (-1, n - 1) else (0, n)
  let first := (start.map (clamped n low high)).getD (if step < 0 then high else low)
  let last := (stop.map (clamped n low high)).getD (if step < 0 then low else high)
  (List.range (rangeSize first last step)).map fun (i : Nat) => (first + i * step).toNat

/-- The items of a slice. -/
def sliced {α : Type} (xs : List α) (start stop step : Datum) : Except Fault (List α) := do
  let step := (← bound step).getD 1
  if step = 0 then throw (.misuse .zeroStep)
  let start ← bound start
  let stop ← bound stop
  let items := xs.toArray
  return (positions start stop step items.size).filterMap (items[·]?)

/-- The range of the numbers of a slice through a range. -/
def slicedRange (a b c : Int) (start stop step : Datum) : Except Fault Datum := do
  let step := (← bound step).getD 1
  if step = 0 then throw (.misuse .zeroStep)
  let n : Int := rangeSize a b c
  let (low, high) : Int × Int := if step < 0 then (-1, n - 1) else (0, n)
  let first := ((← bound start).map (clamped n low high)).getD (if step < 0 then high else low)
  let last := ((← bound stop).map (clamped n low high)).getD (if step < 0 then low else high)
  return range (a + first * c) (a + last * c) (c * step)

/-! ### Single items -/

/-- The item at a position, with the fault of a position outside. -/
def itemAt {α : Type} (outside : Fault) (xs : List α) (i : Int) : Except Fault α :=
  match Signed.item xs i with
  | .error .itemRange => .error outside
  | r => r

/-- Types that can be told of which items they are. -/
def itemisedTypes : List String := [
  "BaseExceptionGroup", "ExceptionGroup", "dict", "enumerate", "frozenset", "list", "set", "tuple",
  "type"]

/-- A type that is told of which items it is. -/
def itemised (t position : Datum) : Datum :=
  let args := match position with
    | tuple args => args
    | d => [d]
  let shownArgs := if args.isEmpty then "()" else listed (args.map typeTitle)
  thing "types.GenericAlias" (t.typeTitle ++ "[" ++ shownArgs ++ "]")
    [("__origin__", t), ("__args__", tuple args)]

/-- The number at a position of a range. -/
def rangeItem (start stop step i : Int) : Except Fault Datum :=
  let n : Int := rangeSize start stop step
  let place := if i < 0 then i + n else i
  if 0 ≤ place && place < n then .ok (number (start + place * step))
  else .error (.misuse .numberRange)

/-- The fault of a position outside a buffer. -/
def bufferRange (isView : Bool) : Fault :=
  .misuse (if isView then .viewRange else .bufferRange)

/-- The item at a position, or the items of a slice. Slices of tuples with named fields have no
fields. -/
def item (group position : Datum) : Except Fault Datum :=
  match group, position, position.number? with
  | record keys values, key, _ => do
    match lookup? keys values (← key.asKey) with
    | some v => return v
    | none => throw (.noKey key.shown)
  | list items, _, some i => itemAt .itemRange items i
  | list items, slice a b c, _ => list <$> sliced items a b c
  | tuple items, _, some i | entry _ items _, _, some i => itemAt (.misuse .tupleRange) items i
  | tuple items, slice a b c, _ | entry _ items _, slice a b c, _ => tuple <$> sliced items a b c
  | text s, _, some i => ofChar <$> itemAt .charRange s.toList i
  | text s, slice a b c, _ => (fun cs => text (String.ofList cs)) <$> sliced s.toList a b c
  | bytes b, _, some i => ofByte <$> itemAt .byteRange b i
  | bytes d, slice a b c, _ => bytes <$> sliced d a b c
  | buffer v b, _, some i => ofByte <$> itemAt (bufferRange v) b i
  | buffer v d, slice a b c, _ => buffer v <$> sliced d a b c
  | range a b c, _, some i => rangeItem a b c i
  | range a b c, slice u v w, _ => slicedRange a b c u v w
  | entry _ _ _, p, _ => .error (.misuse (.badPosition .tuple p.kind))
  | buffer true _, _, _ => .error (.misuse .badViewPosition)
  | list _, p, _ | tuple _, p, _ | text _, p, _ | bytes _, p, _ | range _ _ _, p, _
  | buffer false _, p, _ => .error (.misuse (.badPosition group.kind p.kind))
  | type name, _, _ =>
    if itemisedTypes.contains name then .ok (itemised group position)
    else .error (.misuse (.noTypeItems name))
  | thing "type" name _, _, _ =>
    if isEntryType group then .ok (itemised group position)
    else .error (.misuse (.noTypeItems name))
  | thing "types.GenericAlias" name _, _, _ => .error (.misuse (.notGeneric name))
  | d, _, _ => .error (.misuse (.noItems d.kind))

/-! ### Membership -/

/-- Whether a list contains another one in one piece. -/
def hasPiece {α : Type} [BEq α] (piece : List α) : List α → Bool
  | [] => piece.isEmpty
  | x :: xs => piece.isPrefixOf (x :: xs) || hasPiece piece xs

/-- Whether a group has an item. -/
def contains (group item : Datum) : Except Fault Bool :=
  match group, item, item.number? with
  | text s, text t, _ => .ok (hasPiece t.toList s.toList)
  | text _, d, _ => .error (.misuse (.notSubtext d.kind))
  | bytes b, _, some n =>
    if 0 ≤ n ∧ n < 256 then .ok (b.contains (UInt8.ofNat n.toNat)) else .error (.misuse .byteValue)
  | bytes b, bytes c, _ => .ok (hasPiece c b)
  | bytes b, buffer _ c, _ => .ok (hasPiece c b)
  | bytes _, d, _ => .error (.misuse (.notBytesLike d.kind))
  | buffer false b, d, _ => match d.number?, d.bytes? with
    | some n, _ =>
      if 0 ≤ n ∧ n < 256 then .ok (b.contains (UInt8.ofNat n.toNat))
      else .error (.misuse .byteValue)
    | none, some c => .ok (hasPiece c b)
    | none, none => .error (.misuse (.notBytesLike d.kind))
  | buffer true b, d, _ => .ok ((b.map ofByte).any (equals d))
  | set items, set others, _ | fixedSet items, set others, _ =>
    .ok (items.any (equals (fixedSet others)))
  | set items, d, _ | fixedSet items, d, _ => (fun d => items.any (equals d)) <$> d.asKey
  | record keys _, d, _ => (fun d => keys.any (equals d)) <$> d.asKey
  | list items, d, _ | tuple items, d, _ | series _ items, d, _ | entry _ items _, d, _ =>
    .ok (items.any (equals d))
  | range a b c, _, some n =>
    .ok (rangeSize a b c ≠ 0 && (n - a) % c = 0
      && if 0 < c then a ≤ n && n < b else b < n && n ≤ a)
  | range a b c, d, none => .ok ((rangeItems a b c).any (equals d))
  | d, _, _ => .error (.misuse (.notContainer d.kind))

end Nsis.Datum
