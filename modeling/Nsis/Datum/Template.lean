import Nsis.Datum.Format

/-!
# Texts with fields

A text can have fields that begin with a percent sign and end with a letter, which are filled with
data: one datum, or the items of a tuple. A field with a key in brackets is filled with the item at
that key.

## Main definitions

* `Nsis.Datum.filled` — a text with its fields filled.
-/

namespace Nsis.Datum

/-! ### One field -/

/-- Characters for a field, of which as many as the format has places are taken. -/
def textFilling (f : Format) (cs : List Char) : Except Fault String :=
  { f with fill := ' ', align := if f.align = '<' then '<' else '>' }.padded [] (match f.places with
    | some n => cs.take n
    | none => cs)

/-- A whole number for a field. Places mean digits here, with zeros in front. -/
def numberFilling (f : Format) (letter : Char) (n : Int) : Except Fault String := do
  let (base, mark) := Format.baseOf letter
  Format.checkDigits base n
  if f.places.any (0x7ffffffc < ·) then throw (formatFault .hugePlaces)
  let ds := Text.digits base n.natAbs
  let ds := List.replicate (min (f.places.getD 0) itemRoom - ds.length) '0' ++ ds
  let ds := if letter = 'X' then ds.map Char.toUpper else ds
  f.padded (f.signOf (n < 0) ++ if f.marked then mark else []) ds

/-- A fraction for a field. Byte strings refuse all that is no fraction for one reason. -/
def fractionFilling (binary : Bool) (f : Format) (d : Datum) : Except Fault String :=
  match d, d.number? with
  | fraction x, _ => f.ofFraction x
  | d, some n =>
    match Fraction.ofInt n with
    | .ok x => f.ofFraction x
    | .error e => .error (if binary then formatFault (.notReal true d.kind) else e)
  | d, none => .error (formatFault (.notReal binary d.kind))

/-- The character that fills a field. -/
def charFilling (f : Format) (d : Datum) : Except Fault String :=
  match d, d.number? with
  | _, some n =>
    if n < 0 || 0x110000 ≤ n then .error (formatFault (.char false))
    else textFilling f [Char.ofNat n.toNat]
  | text s, _ =>
    match s.toList with
    | [c] => textFilling f [c]
    | _ => .error (formatFault (.notChar false))
  | _, _ => .error (formatFault (.notChar false))

/-- The characters with the numbers of bytes. -/
def charsOf (b : Bytes) : List Char :=
  b.map fun c => Char.ofNat c.toNat

/-- The bytes that fill a field. -/
def bytesFilling (f : Format) (d : Datum) : Except Fault String :=
  match d.bytes? with
  | some b => textFilling f (charsOf b)
  | none => .error (formatFault (.notBytes d.kind))

/-- The single byte that fills a field. -/
def byteFilling (f : Format) (d : Datum) : Except Fault String :=
  match d, d.number? with
  | _, some n =>
    if n < 0 || 256 ≤ n then .error (formatFault (.char true))
    else textFilling f [Char.ofNat n.toNat]
  | bytes [b], _ | buffer false [b], _ => textFilling f [Char.ofNat b.toNat]
  | _, _ => .error (formatFault (.notChar true))

/-- How a datum fills a field with a letter and a format, which stands at an index. -/
def filling (binary : Bool) (f : Format) (letter : Char) (index : Nat) (d : Datum) :
    Except Fault String :=
  if binary && (letter = 's' || letter = 'b') then bytesFilling f d
  else if letter = 'c' then
    let f := { f with places := none }
    if binary then byteFilling f d else charFilling f d
  else if letter = 's' then do textFilling f (← d.writable).plain.toList
  else if letter = 'a' || (binary && letter = 'r') then do
    textFilling f (Text.inAscii (← d.writable).shown).toList
  else if letter = 'r' then do textFilling f (← d.writable).shown.toList
  else if letter = 'd' || letter = 'i' || letter = 'u' then
    match d, d.number? with
    | fraction x, _ => do numberFilling f 'd' (← Fraction.toInt Fraction.truncated x)
    | _, some n => numberFilling f 'd' n
    | d, none =>
      .error (formatFault (.notNumber (if binary && letter = 'i' then 'd' else letter) d.kind))
  else if letter = 'x' || letter = 'X' || letter = 'o' then
    match d.number? with
    | some n => numberFilling f letter n
    | none => .error (formatFault (.notWhole letter d.kind))
  else if "eEfFgG".toList.contains letter then
    fractionFilling binary { f with letter := some letter } d
  else if binary && 0x80 ≤ letter.toNat then .error (formatFault .byteField)
  else .error (formatFault (.unknownField binary letter index))

/-! ### Formats of fields -/

/-- A number within bounds, or what else is wrong. -/
def within (low high : Int) (fault : Fault) (n : Int) : Except Fault Int :=
  if n < low || high < n then .error fault else .ok n

/-- The number that stands at the start of a text, or that a star takes from the data, with the data
and characters that are left. -/
def counted (low high : Int) (written taken : Fault) (ds : List Datum) (cs : List Char) :
    Except Fault (Option Int × List Datum × List Char) :=
  match cs, ds with
  | '*' :: cs, d :: ds =>
    match d.number? with
    | some n => do return (some (← within low high taken n), ds, cs)
    | none => .error (formatFault .notCount)
  | '*' :: _, [] => .error (formatFault .noData)
  | cs, ds => do
    match Format.leadingNumber cs with
    | (some n, cs) => return (some (← within low high written n), ds, cs)
    | (none, cs) => return (none, ds, cs)

/-- The format of a field, with the data that are left and the characters behind it. -/
def fieldFormat (binary : Bool) (ds : List Datum) (cs : List Char) :
    Except Fault (Format × List Datum × List Char) := do
  let flags := cs.takeWhile "#-+ 0".toList.contains
  let (width, ds, cs) ← counted (-0x8000000000000000) 0x7fffffffffffffff
    (formatFault .fieldWidth) (formatFault .hugeCount) ds (cs.drop flags.length)
  let (point, cs) := Format.oneOf ['.'] cs
  let (places, ds, cs) ←
    if point.isSome then
      counted (-0x80000000) 0x7fffffff (formatFault (.fieldPlaces binary))
        (.misuse (.numeric .hugeWord)) ds cs
    else pure (none, ds, cs)
  let (_, cs) := Format.oneOf ['h', 'l', 'L'] cs
  let isLeft := flags.contains '-' || width.any (· < 0)
  let isZero := flags.contains '0' && !isLeft
  let f : Format := {
    fill := if isZero then '0' else ' '
    align := if isLeft then '<' else if isZero then '=' else '>'
    sign := if flags.contains '+' then some '+' else if flags.contains ' ' then some ' ' else none
    marked := flags.contains '#'
    width := (width.getD 0).natAbs
    places := if point.isSome then some (places.getD 0).toNat else none }
  return (f, ds, cs)

/-- The key at the start of a text, up to the bracket that closes as many as were opened, and what
follows it. -/
def keyBefore : (depth : Nat) → List Char → Except Fault (List Char × List Char)
  | _, [] => .error (formatFault .openKey)
  | depth, c :: cs =>
    if c = ')' && depth = 0 then .ok ([], cs)
    else do
      let depth := if c = '(' then depth + 1 else if c = ')' then depth - 1 else depth
      let (key, rest) ← keyBefore depth cs
      return (c :: key, rest)

/-- The key of a field, if it has one, and what follows it. -/
def keyOf? (cs : List Char) : Except Fault (Option (List Char) × List Char) :=
  match cs with
  | '(' :: cs => do
    let (key, rest) ← keyBefore 0 cs
    return (some key, rest)
  | cs => .ok (none, cs)

/-! ### All fields -/

/-- What fields are filled with. -/
structure Supply where
  binary : Bool
  /-- The datum whose items are at keys. -/
  source? : Option Datum
  /-- How many characters there are. -/
  size : Nat

/-- The item of a supply at a key. -/
def Supply.itemAt (s : Supply) (key : List Char) : Except Fault Datum :=
  match s.source? with
  | some d =>
    d.item (if s.binary then bytes (key.map fun c => UInt8.ofNat c.toNat)
      else text (String.ofList key))
  | none => .error (formatFault .noMapping)

/-- The field behind a percent sign filled, with the data and the characters that are left. After a
key, the item at that key is all that there is. -/
def Supply.field (s : Supply) (ds : List Datum) (cs : List Char) :
    Except Fault (String × List Datum × List Char) := do
  if cs.head? = some '(' && s.source?.isNone then throw (formatFault .noMapping)
  let (key?, cs) ← keyOf? cs
  let ds ← match key? with
    | some key => do pure [← s.itemAt key]
    | none => pure ds
  let (f, ds, cs) ← fieldFormat s.binary ds cs
  match cs, ds with
  | [], _ => throw (formatFault .openField)
  | _, [] => throw (formatFault .noData)
  | letter :: rest, d :: ds =>
    return (← filling s.binary f letter (s.size - rest.length - 1) d, ds, rest)

/-- The pieces of a text with its fields filled, the last one first, and the data that are left. -/
def Supply.fill (s : Supply) : (fuel : Nat) → List (List Char) → List Datum → List Char →
    Except Fault (List (List Char) × List Datum)
  | 0, done, ds, _ | _, done, ds, [] => .ok (done, ds)
  | fuel + 1, done, ds, '%' :: '%' :: cs => s.fill fuel (['%'] :: done) ds cs
  | fuel + 1, done, ds, '%' :: cs => do
    let (filled, ds, cs) ← s.field ds cs
    s.fill fuel (filled.toList :: done) ds cs
  | fuel + 1, done, ds, cs =>
    let plain := cs.takeWhile (· ≠ '%')
    s.fill fuel (plain :: done) ds (cs.drop plain.length)

/-- Whether data have items at keys that fields can be filled with. -/
def isMapping (binary : Bool) : Datum → Bool
  | list _ | record _ _ | range _ _ _ | buffer true _ | thing "types.GenericAlias" _ _ => true
  | bytes _ | buffer false _ => !binary
  | _ => false

/-- The characters of a text with its fields filled. Only data with items at keys may be left. -/
def filledChars (binary : Bool) (cs : List Char) (d : Datum) : Except Fault (List Char) := do
  let s : Supply := { binary, source? := some d |>.filter (isMapping binary), size := cs.length }
  let (done, left) ← s.fill cs.length [] (d.tupleItems?.getD [d]) cs
  if !left.isEmpty && s.source?.isNone then throw (formatFault (.leftover binary))
  return done.reverse.flatten

/-- A text or byte string with its fields filled. -/
def filled (template d : Datum) : Except Fault Datum :=
  match template with
  | bytes b => do
    let out ← filledChars true (charsOf b) d
    return bytes (out.map fun c => UInt8.ofNat c.toNat)
  | t => do
    return text (String.ofList (← filledChars false t.plain.toList d))

end Nsis.Datum
