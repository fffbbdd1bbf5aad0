import Nsis.Datum.Fraction

/-!
# Truth, equality and order of data

Every datum holds or does not, and any two are equal or not. Only data of related kinds have an
order: numbers, texts, byte strings, and groups of the same kind, which are compared item by item.

## Main definitions

* `Nsis.Datum.holds` — whether data count as true.
* `Nsis.Datum.equals` — whether data are equal.
* `Nsis.Datum.isBefore` — the order of data.
* `Nsis.Datum.unhashable?` — the part of data that keeps them from being a key.
-/

namespace Nsis.Datum

/-- How many numbers a range has. -/
def rangeSize (start stop step : Int) : Nat :=
  if step = 0 then 0
  else if 0 < step then ((stop - start + step - 1) / step).toNat
  else ((start - stop - step - 1) / -step).toNat

/-- Whether data count as true: nothing, zeros and empty groups do not. -/
def holds : Datum → Bool
  | absent => false
  | truth b => b
  | number n => n ≠ 0
  | fraction x => !(x == 0)
  | complex x y => !(x == 0 && y == 0)
  | text s => !s.isEmpty
  | bytes b | buffer _ b => !b.isEmpty
  | list items | tuple items | set items | fixedSet items | entry _ items _ => !items.isEmpty
  | record keys _ => !keys.isEmpty
  | range start stop step => rangeSize start stop step ≠ 0
  | series kind items =>
    !(items.isEmpty && ["dict_keys", "dict_values", "dict_items"].contains kind)
  | _ => true

/-- The order of two numbers. The inner value is missing for what is no number, and the outer one
for data of another kind. -/
def compareNumbers (d e : Datum) : Option (Option Ordering) :=
  match d, e, d.number?, e.number? with
  | _, _, some m, some n => some (some (Ord.compare m n))
  | fraction x, _, _, some n => some ((Fraction.compareInt n x).map Ordering.swap)
  | _, fraction y, some m, _ => some (Fraction.compareInt m y)
  | fraction x, fraction y, _, _ => some (Fraction.compare x y)
  | _, _, _, _ => none

/-- Whether a number with an imaginary part equals another number. -/
def equalsComplex (x y : Float) : Datum → Bool
  | complex u v => x == u && y == v
  | d => y == 0 && compareNumbers (fraction x) d = some (some .eq)

/-- Whether every row of a table has a mark. -/
def covers (rows : List (List Bool)) : Bool :=
  rows.all fun row => row.any id

/-- The marks that two tables have in common. -/
def both (rows others : List (List Bool)) : List (List Bool) :=
  List.zipWith (List.zipWith and) rows others

mutual

/-- Whether data are equal. -/
def equals : Datum → Datum → Bool
  | absent, absent => true
  | text s, text t => s = t
  | bytes b, bytes c | bytes b, buffer _ c | buffer _ b, bytes c | buffer _ b, buffer _ c => b = c
  | list xs, list ys => equalItems xs ys
  | tuple xs, tuple ys | tuple xs, entry _ ys _ => equalItems xs ys
  | entry _ xs _, tuple ys | entry _ xs _, entry _ ys _ => equalItems xs ys
  | set xs, set ys | set xs, fixedSet ys | set xs, series _ ys =>
    xs.length = ys.length && covers (equalities xs ys)
  | fixedSet xs, set ys | fixedSet xs, fixedSet ys =>
    xs.length = ys.length && covers (equalities xs ys)
  | series _ xs, set ys | series _ xs, series _ ys =>
    xs.length = ys.length && covers (equalities xs ys)
  | record ks vs, record ls ws =>
    ks.length = ls.length && covers (both (equalities ks ls) (equalities vs ws))
  | range a b c, range u v w =>
    let n := rangeSize a b c
    n = rangeSize u v w && (n = 0 || (a = u && (n = 1 || c = w)))
  | builtin s, builtin t => s = t
  | type s, type t => s = t
  | thing k s ps, thing l t qs =>
    match address? ps, address? qs with
    | some a, some b => a = b
    | none, none => k = l && s = t && ps.length = qs.length
    | _, _ => false
  | shared a, shared b => a = b
  | complex x y, d => equalsComplex x y d
  | d, complex x y => equalsComplex x y d
  | d, e => compareNumbers d e = some (some .eq)
termination_by structural d => d

/-- Whether the items of two lists are equal. -/
def equalItems : List Datum → List Datum → Bool
  | [], [] => true
  | x :: xs, y :: ys => equals x y && equalItems xs ys
  | _, _ => false
termination_by structural xs => xs

/-- Which items are equal to which others: a row for each item. -/
def equalities : List Datum → List Datum → List (List Bool)
  | [], _ => []
  | x :: xs, ys => ys.map (fun y => equals x y) :: equalities xs ys
termination_by structural xs => xs

end

/-- Whether all items are among others. -/
def subset (xs ys : List Datum) : Bool :=
  covers (equalities xs ys)

/-- The value of a key in a record. -/
def lookup? (keys values : List Datum) (key : Datum) : Option Datum :=
  ((keys.zip values).find? fun (k, _) => equals key k).map (·.2)

/-- Whether an order is one that a relation asks for. -/
def isIn (r : Relation) (o : Ordering) : Bool :=
  match r with
  | .less => o = .lt
  | .lessEqual => o ≠ .gt
  | .greater => o = .gt
  | .greaterEqual => o ≠ .lt
  | _ => false

/-- The order of two texts, by the numbers of their characters. -/
def compareTexts (s t : String) : Ordering :=
  if s = t then .eq else if s.toList < t.toList then .lt else .gt

/-- The order of two byte strings. -/
def compareBytes (b c : Bytes) : Ordering :=
  if b = c then .eq else if b < c then .lt else .gt

/-- The items of a set, or the keys or entries of a record, each of which is there once. -/
def distinctItems? : Datum → Option (List Datum)
  | set items | fixedSet items => some items
  | series kind items => if kind = "dict_keys" || kind = "dict_items" then some items else none
  | _ => none

/-- Whether two sets contain each other as a relation asks for. -/
def compareSets (r : Relation) (xs ys : List Datum) : Bool :=
  match r with
  | .less => subset xs ys && xs.length < ys.length
  | .lessEqual => subset xs ys
  | .greater => subset ys xs && ys.length < xs.length
  | .greaterEqual => subset ys xs
  | _ => false

mutual

/-- Whether data are in an order. -/
def isBefore (r : Relation) : Datum → Datum → Except Fault Bool
  | text s, text t => .ok (isIn r (compareTexts s t))
  | bytes b, bytes c | bytes b, buffer false c => .ok (isIn r (compareBytes b c))
  | buffer false b, bytes c | buffer false b, buffer false c => .ok (isIn r (compareBytes b c))
  | list xs, list ys => areBefore r xs ys
  | tuple xs, tuple ys | tuple xs, entry _ ys _ => areBefore r xs ys
  | entry _ xs _, tuple ys | entry _ xs _, entry _ ys _ => areBefore r xs ys
  | d, e =>
    match compareNumbers d e, distinctItems? d, distinctItems? e with
    | some o, _, _ => .ok (o.any (isIn r))
    | none, some xs, some ys => .ok (compareSets r xs ys)
    | none, _, _ => .error (.noOrder r d.kind e.kind)
termination_by structural d => d

/-- Whether lists are in an order: the first items that differ decide, or else the lengths. -/
def areBefore (r : Relation) : List Datum → List Datum → Except Fault Bool
  | [], [] => .ok (isIn r .eq)
  | [], _ :: _ => .ok (isIn r .lt)
  | _ :: _, [] => .ok (isIn r .gt)
  | x :: xs, y :: ys => if equals x y then areBefore r xs ys else isBefore r x y
termination_by structural xs => xs

end

mutual

/-- The kind of the part of data that keeps them from being a key. -/
def unhashable? : Datum → Option Kind
  | list _ => some .list
  | set _ => some .set
  | record _ _ => some .record
  | slice _ _ _ => some (.other "slice")
  | buffer false _ => some (.other "bytearray")
  | thing kind _ _ | series kind _ =>
    if kind = "dict_keys" || kind = "dict_items" then some (.other kind) else none
  | tuple items | entry _ items _ => unhashableItem? items
  | _ => none

/-- The kind of the first item that keeps a tuple from being a key. -/
def unhashableItem? : List Datum → Option Kind
  | [] => none
  | x :: xs =>
    match unhashable? x with
    | some k => some k
    | none => unhashableItem? xs

end

/-- Data as a key. -/
def asKey (d : Datum) : Except Fault Datum :=
  match d.unhashable? with
  | some k => .error (.misuse (.unhashable k))
  | none => .ok d

/-- A record with an entry more. A key keeps its place. -/
def insert (keys values : List Datum) (key value : Datum) : List Datum × List Datum :=
  if keys.any (equals key) then
    (keys, List.zipWith (fun k v => if equals key k then value else v) keys values)
  else (keys ++ [key], values ++ [value])

end Nsis.Datum
