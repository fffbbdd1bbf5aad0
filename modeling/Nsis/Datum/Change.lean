import Nsis.Datum.Method

/-!
# Functions that change data

Lists, records, sets and buffers have functions that change them. Such a function gives a value and
says what the data are afterwards. The items may stand for data that are kept elsewhere: to compare
them, they are settled first.

## Main definitions

* `Nsis.Datum.Change` — a value and what the data are afterwards.
* `Nsis.Datum.Look` — how data that are kept elsewhere are looked at.
* `Nsis.Datum.change?` — what a function of data changes.
-/

namespace Nsis.Datum

/-- A value and what the data are afterwards. -/
structure Change where
  value : Datum := absent
  data : Datum
  /-- Whether the value is the data themselves. -/
  givesOwner : Bool := false

/-- How data that are kept elsewhere are looked at. -/
structure Look where
  /-- Data with what is kept for them. -/
  opened (d : Datum) : Datum
  /-- Data with everything that is kept for them and for what is inside. -/
  settled (d : Datum) : Datum
  /-- Data as a key. -/
  key (d : Datum) : Except Fault Datum

namespace Look

variable (l : Look)

/-- Whether two data are equal. -/
def areEqual (d e : Datum) : Bool :=
  (l.settled d).equals (l.settled e)

end Look

/-! ### Lists -/

/-- Where an item is inserted that is to stand at a position. -/
def insertionPlace (n : Nat) (i : Int) : Nat :=
  (clamped n 0 n i).toNat

/-- A list without the item at a position, and the item. -/
def takenOut {α : Type} (outside : Fault) (xs : List α) (i : Int) : Except Fault (α × List α) := do
  let x ← itemAt outside xs i
  return (x, xs.eraseIdx (Signed.place xs i))

/-- The positions of a slice through a list. -/
def slicePlaces (n : Nat) (start stop step : Datum) : Except Fault (List Nat × Int) := do
  let step := (← bound step).getD 1
  if step = 0 then throw (.misuse .zeroStep)
  return (positions (← bound start) (← bound stop) step n, step)

/-- A list with other items in the place of a slice. -/
def spliced {α : Type} (xs new : List α) (start stop step : Datum) : Except Fault (List α) := do
  let (places, step) ← slicePlaces xs.length start stop step
  if step = 1 then
    let n : Int := xs.length
    let first := (((← bound start).map (clamped n 0 n)).getD 0).toNat
    return xs.take first ++ new ++
      xs.drop (max first (places.getLastD 0 + if places.isEmpty then 0 else 1))
  if places.length ≠ new.length then
    throw (.misuse (.sliceLength new.length places.length))
  return (places.zip new).foldl (fun xs (i, x) => xs.set i x) xs

/-- A list without a slice. -/
def unspliced {α : Type} (xs : List α) (start stop step : Datum) : Except Fault (List α) := do
  let (places, _) ← slicePlaces xs.length start stop step
  return (xs.mapIdx fun i x => if places.contains i then none else some x).filterMap id

/-- What a function of a list changes. -/
def changeList? (l : Look) (items : List Datum) (name : String) (args : List Datum) :
    Option (Except Fault Change) :=
  let into := fun (items : List Datum) => (.ok { data := list items } : Except Fault Change)
  match name, args with
  | "append", [d] => some (into (items ++ [d]))
  | "extend", [d] => some do into (items ++ (← d.members))
  | "__iadd__", [d] =>
    some do return { data := list (items ++ (← d.members)), givesOwner := true }
  | "__imul__", [d] => some do
    let n ← copies items.length (← wholeOf d)
    return { data := list (List.replicate n items).flatten, givesOwner := true }
  | "insert", [i, d] => some do into (items.insertIdx (insertionPlace items.length (← wholeOf i)) d)
  | "pop", args => some do
    if items.isEmpty then
      let _ ← args.mapM wholeOf
      throw (.misuse .emptyList)
    let i ← (args.head?.map wholeOf).getD (.ok (-1))
    let (d, rest) ← takenOut (.misuse .popRange) items i
    return { value := d, data := list rest }
  | "remove", [d] =>
    some (match items.findIdx? (l.areEqual d) with
      | some i => into (items.eraseIdx i)
      | none => .error (.misuse .notInListRemove))
  | "clear", [] => some (into [])
  | "reverse", [] => some (into items.reverse)
  | "copy", [] => some (.ok { value := list items, data := list items })
  | "count", [d] =>
    some (.ok { value := number (items.countP (l.areEqual d)), data := list items })
  | "index", d :: bounds => some do
    let part ← searchedPart items bounds
    match part.bind fun (ys, start) => (ys.findIdx? (l.areEqual d)).map (· + start) with
    | some i => return { value := number i, data := list items }
    | none => throw (.misuse (.notInList (l.settled d).shown))
  | "__setitem__", [slice a b c, d] => some do
    let new ← match d.members with
      | .ok new => pure new
      | .error _ => throw (.misuse .sliceItems)
    into (← spliced items new a b c)
  | "__setitem__", [i, d] =>
    some (match i.number? with
      | some i => do
        let _ ← itemAt (.misuse .assignmentRange) items i
        into (items.set (Signed.place items i) d)
      | none => .error (.misuse (.badPosition .list i.kind)))
  | "__delitem__", [slice a b c] => some do into (← unspliced items a b c)
  | "__delitem__", [i] =>
    some (match i.number? with
      | some i => do
        let (_, rest) ← takenOut (.misuse .assignmentRange) items i
        into rest
      | none => .error (.misuse (.badPosition .list i.kind)))
  | _, _ => none

/-! ### Records -/

/-- A record without an entry. -/
def erased (keys values : List Datum) (key : Datum) : List Datum × List Datum :=
  ((keys.zip values).filter fun (k, _) => !equals key k).unzip

/-- Entries of a record from pairs. -/
def entriesOf (l : Look) (index : Nat) : List Datum → Except Fault (List (Datum × Datum))
  | [] => .ok []
  | d :: ds => do
    match (l.opened d).members with
    | .ok [k, v] => return (← l.key k, v) :: (← entriesOf l (index + 1) ds)
    | .ok items => throw (.misuse (.pairLength index items.length))
    | .error _ => throw (.misuse (.notPair index))

/-- The entries that a record gets from another one or from pairs, and from named arguments. -/
def newEntries (l : Look) (args : List Datum) (labelled : List (String × Datum)) :
    Except Fault (List (Datum × Datum)) := do
  let entries ← match args with
    | [] => pure []
    | record keys values :: _ => pure (keys.zip values)
    | d :: _ => entriesOf l 0 (← d.members)
  return entries ++ labelled.map fun (k, v) => (text k, v)

/-- What a function of a record changes. -/
def changeRecord? (l : Look) (keys values : List Datum) (name : String) (a : Arguments) :
    Option (Except Fault Change) :=
  let same := record keys values
  let into := fun (value : Datum) (entries : List Datum × List Datum) =>
    (.ok { value, data := record entries.1 entries.2 } : Except Fault Change)
  let found := fun (k : Datum) => do return lookup? keys values (← l.key k)
  match name, a.plain with
  | "get", k :: rest => some do
    return { value := (← found k).getD (rest.headD absent), data := same }
  | "setdefault", k :: rest => some do
    match ← found k with
    | some v => return { value := v, data := same }
    | none => into (rest.headD absent) (insert keys values (← l.key k) (rest.headD absent))
  | "pop", k :: rest => some do
    match ← found k, rest with
    | some v, _ => into v (erased keys values (← l.key k))
    | none, d :: _ => return { value := d, data := same }
    | none, [] => throw (.noKey (l.settled k).shown)
  | "popitem", [] =>
    some (match (keys.zip values).getLast? with
      | some (k, v) => into (tuple [k, v]) (keys.dropLast, values.dropLast)
      | none => .error (.noKey (Text.quoted "popitem(): dictionary is empty")))
  | "update", args => some do
    into absent (merged keys values (← newEntries l args a.labelled))
  | "__ior__", args => some do
    let (keys, values) := merged keys values (← newEntries l args [])
    return { data := record keys values, givesOwner := true }
  | "clear", [] => some (into absent ([], []))
  | "copy", [] => some (.ok { value := same, data := same })
  | "__getitem__", [k] => some do
    match ← found k with
    | some v => return { value := v, data := same }
    | none => throw (.noKey (l.settled k).shown)
  | "__setitem__", [k, d] => some do into absent (insert keys values (← l.key k) d)
  | "__delitem__", [k] => some do
    match ← found k with
    | some _ => into absent (erased keys values (← l.key k))
    | none => throw (.noKey (l.settled k).shown)
  | _, _ => none

/-! ### Sets -/

/-- What a function of a set changes. -/
def changeSet? (l : Look) (items : List Datum) (name : String) (args : List Datum) :
    Option (Except Fault Change) :=
  let into := fun (items : List Datum) => (.ok { data := set items } : Except Fault Change)
  let without := fun (d : Datum) => items.filter (!equals d ·)
  match name, args with
  | "add", [d] => some do
    let d ← l.key d
    into (if isAmong items d then items else laidOut (items ++ [d]))
  | "discard", [d] => some do into (without (← l.key d))
  | "remove", [d] => some do
    let d ← l.key d
    if isAmong items d then into (without d) else throw (.noKey (l.settled d).shown)
  | "pop", [] =>
    some (match items with
      | d :: rest => .ok { value := d, data := set rest }
      | [] => .error (.noKey (Text.quoted "pop from an empty set")))
  | "clear", [] => some (into [])
  | "update", args => some do into ((← setArguments args).foldl unitedItems items)
  | "intersection_update", args => some do into ((← setArguments args).foldl commonItems items)
  | "difference_update", args => some do
    let others := (← setArguments args).flatten
    into (items.filter (!isAmong others ·))
  | "symmetric_difference_update", args => some do
    let others := (← setArguments args).flatten
    into ((unitedItems items others).filter fun d => !(isAmong items d && isAmong others d))
  | _, _ => none

/-! ### Buffers -/

/-- A number as a byte. -/
def byteOf (refused : Fault) (d : Datum) : Except Fault UInt8 := do
  let n ← wholeOf d
  if n < 0 || 256 ≤ n then throw refused
  return UInt8.ofNat n.toNat

/-- The bytes of a byte string or of a group of numbers. -/
def bytesOfGroup (refused : Fault) (d : Datum) : Except Fault Bytes :=
  match d.bytes? with
  | some b => .ok b
  | none => do (← d.members).mapM (byteOf refused)

/-- What a function of bytes that can change changes. -/
def changeBuffer? (b : Bytes) (name : String) (args : List Datum) :
    Option (Except Fault Change) :=
  let into := fun (b : Bytes) => (.ok { data := buffer false b } : Except Fault Change)
  let byte := byteOf (.misuse .byteValue)
  match name, args with
  | "append", [d] => some do into (b ++ [← byte d])
  | "extend", [d] => some do into (b ++ (← bytesOfGroup (.misuse .byteValue) d))
  | "__iadd__", [d] => some do
    return { data := buffer false (b ++ (← bytesArgument d)), givesOwner := true }
  | "insert", [i, d] => some do
    let i ← wholeOf i
    into (b.insertIdx (insertionPlace b.length i) (← byte d))
  | "pop", args => some do
    let i ← (args.head?.map wholeOf).getD (.ok (-1))
    if b.isEmpty then throw (.misuse .emptyBuffer)
    let (c, rest) ← takenOut (.misuse .popRange) b i
    return { value := ofByte c, data := buffer false rest }
  | "remove", [d] => some do
    let c ← byte d
    match b.idxOf? c with
    | some i => into (b.eraseIdx i)
    | none => throw (.misuse .notInBuffer)
  | "clear", [] => some (into [])
  | "reverse", [] => some (into b.reverse)
  | "copy", [] => some (.ok { value := buffer false b, data := buffer false b })
  | "__setitem__", [slice u v w, d] => some do
    into (← spliced b (← bytesOfGroup (.misuse .byteValue) d) u v w)
  | "__setitem__", [i, d] => some do
    match i.number? with
    | some i =>
      let _ ← itemAt (.misuse .bufferRange) b i
      into (b.set (Signed.place b i) (← byte d))
    | none => throw (.misuse (.badPosition (.other "bytearray") i.kind))
  | "__delitem__", [slice u v w] => some do into (← unspliced b u v w)
  | "__delitem__", [i] => some do
    match i.number? with
    | some i =>
      let (_, rest) ← takenOut (.misuse .bufferRange) b i
      into rest
    | none => throw (.misuse (.badPosition (.other "bytearray") i.kind))
  | _, _ => none

/-- What a function of data changes, if it is one that can. Groups among the arguments have to be
there with their items. -/
def change? (l : Look) (owner : Datum) (name : String) (a : Arguments) :
    Option (Except Fault Change) :=
  match owner with
  | list items => changeList? l items name a.plain
  | record keys values => changeRecord? l keys values name a
  | set items => changeSet? l items name a.plain
  | buffer false b => changeBuffer? b name a.plain
  | _ => none

end Nsis.Datum
