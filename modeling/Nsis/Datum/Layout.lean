import Nsis.Datum.Arithmetic
import Nsis.Datum.Arity
import Nsis.Text.Integer

/-!
# Layouts of packed data

A layout is a text with a letter for each field of a byte string, possibly with a count in front.
A first sign fixes the order of bytes and whether fields are aligned as the machine wants it.

## Main definitions

* `Nsis.Datum.Layout` — layouts.
* `Nsis.Datum.Layout.read` — the layout that a text describes.
* `Nsis.Datum.Layout.size` — how many bytes a layout takes.
* `Nsis.Datum.Layout.unpack`, `Nsis.Datum.Layout.pack` — the data of a byte string, and back.
-/

namespace Nsis.Datum

/-- A layout: its fields as letters with counts. -/
structure Layout where
  /-- Whether the most significant byte comes first. -/
  big : Bool := false
  /-- Whether fields are aligned as the machine wants it. -/
  native : Bool := true
  fields : List (Char × Nat) := []

namespace Layout

/-- How many bytes a letter stands for, if it is one. -/
def width? (native : Bool) (c : Char) : Option Nat :=
  if "xcbB?sp".toList.contains c then some 1
  else if "hHe".toList.contains c then some 2
  else if "iIf".toList.contains c then some 4
  else if "qQd".toList.contains c then some 8
  else if "lL".toList.contains c then some (if native then 8 else 4)
  else if native && "nNP".toList.contains c then some 8
  else none

/-- The largest size of a layout. -/
def maxSize : Nat := 0x7fffffffffffffff

/-- The fields that characters describe. -/
def readFields (native : Bool) : (fuel : Nat) → List Char → Except Fault (List (Char × Nat))
  | 0, _ | _, [] => .ok []
  | fuel + 1, c :: cs =>
    if c = ' ' || c = '\t' || c = '\n' then readFields native fuel cs
    else
      let count := (c :: cs).takeWhile Char.isDigit
      match (c :: cs).drop count.length with
      | [] => .error (.misuse (.packing .layoutCount))
      | letter :: rest =>
        match width? native letter with
        | none => .error (.misuse (.packing .layoutLetter))
        | some w =>
          let n := if count.isEmpty then 1
            else Text.ofDigits 10 (count.filterMap (Text.digitValue? 10))
          if maxSize < n * w then .error (.misuse (.packing .layoutSize))
          else (readFields native fuel rest).map ((letter, n) :: ·)

/-- The layout that a text describes. -/
def read (s : String) : Except Fault Layout :=
  let ofRest := fun (big native : Bool) (cs : List Char) => do
    return { big, native, fields := ← readFields native cs.length cs }
  match s.toList with
  | '<' :: cs | '=' :: cs => ofRest false false cs
  | '>' :: cs | '!' :: cs => ofRest true false cs
  | '@' :: cs => ofRest false true cs
  | cs => ofRest false true cs

/-- The layout that data describe. -/
def ofDatum : Datum → Except Fault Layout
  | text s =>
    match s.toList.findIdx? fun c => 0x80 ≤ c.toNat with
    | some i =>
      let others := (s.toList.drop i).takeWhile fun c => 0x80 ≤ c.toNat
      .error (.misuse (.encoding
        (.notEncodable "ascii" (others.headD 'a') i others.length (some 128))))
    | none => read s
  | bytes b => read (String.ofList (b.map fun c => Char.ofNat c.toNat))
  | d => .error (.misuse (.packing (.noLayout d.kind)))

/-- How many bytes a single item of a field takes. -/
def width (l : Layout) (c : Char) : Nat :=
  (width? l.native c).getD 1

/-- How many bytes are left out in front of a field at a position. -/
def gap (l : Layout) (position : Nat) (c : Char) : Nat :=
  if l.native then (l.width c - position % l.width c) % l.width c else 0

/-- How many bytes a layout takes. -/
def size (l : Layout) : Nat :=
  l.fields.foldl (fun n (c, count) => n + l.gap n c + count * l.width c) 0

/-- Whether a letter stands for a number with a sign. -/
def isSigned (c : Char) : Bool :=
  "bhilqn".toList.contains c

/-- The number that bytes stand for. -/
def numberOf (l : Layout) (signed : Bool) (b : Bytes) : Int :=
  let n := Bytes.value (if l.big then b.reverse else b)
  if signed && Bits.weight (8 * b.length) ≤ 2 * n then (n : Int) - Bits.weight (8 * b.length) else n

/-- The fraction that sixteen bits stand for: a sign, five bits of an exponent and ten behind the
point. -/
def ofHalf (n : Nat) : Float :=
  let (exponent, part) := (n / 0x400 % 0x20, n % 0x400)
  let size := if exponent = 0x1f then if part = 0 then 1 / 0 else 0 / 0
    else if exponent = 0 then Float.scaleB (Float.ofNat part) (-24)
    else Float.scaleB (Float.ofNat (0x400 + part)) ((exponent : Int) - 25)
  Fraction.signed (0x8000 ≤ n) size

/-- The sixteen bits nearest to a fraction, unless it is too large. Of two that are as near, the
even ones are taken; a step up may reach the next exponent. -/
def toHalf? (x : Float) : Option Nat :=
  let sign := if Fraction.isMinus x then 0x8000 else 0
  if x.isNaN then some 0x7e00
  else if x.isInf then some (sign + 0x7c00)
  else
    let b := Text.Binary.ofFloat x
    if b.mantissa = 0 then some sign
    else
      let exponent : Int := max (b.mantissa.log2 + b.exponent) (-14)
      let k := b.exponent + 10 - exponent
      let unit := Nat.pow 2 (-k).toNat
      let n := b.mantissa * Nat.pow 2 k.toNat
      let up := unit < 2 * (n % unit) || (unit = 2 * (n % unit) && n / unit % 2 = 1)
      let bits := ((exponent + 14) * 0x400).toNat + n / unit + if up then 1 else 0
      if 0x7c00 ≤ bits then none else some (sign + bits)

/-- The datum that the bytes of an item are. -/
def itemOf (l : Layout) (c : Char) (b : Bytes) : Datum :=
  if c = 'c' then bytes b
  else if c = '?' then truth (b.any (· ≠ 0))
  else if c = 'd' then fraction (Float.ofBits (l.numberOf false b).toNat.toUInt64)
  else if c = 'f' then fraction (Float32.ofBits (l.numberOf false b).toNat.toUInt32).toFloat
  else if c = 'e' then fraction (ofHalf (l.numberOf false b).toNat)
  else number (l.numberOf (isSigned c) b)

/-- The data of the fields, from a position on. -/
def unpackFields (l : Layout) (position : Nat) : List (Char × Nat) → Bytes → List Datum
  | [], _ => []
  | (c, count) :: fields, b =>
    let b := b.drop (l.gap position c)
    let n := count * l.width c
    let rest := unpackFields l (position + l.gap position c + n) fields (b.drop n)
    if c = 'x' then rest
    else if c = 's' then bytes (b.take n) :: rest
    else if c = 'p' then
      bytes (((b.take n).drop 1).take (((b.take n).head?.map UInt8.toNat).getD 0)) :: rest
    else
      (List.range count).map (fun (i : Nat) =>
        l.itemOf c ((b.drop (i * l.width c)).take (l.width c))) ++ rest

/-- The data of a byte string, which has to have the size of the layout. -/
def unpack (l : Layout) (b : Bytes) : Except Fault Datum :=
  if b.length = l.size then .ok (tuple (l.unpackFields 0 l.fields b))
  else .error (.misuse (.packing (.bufferSize l.size)))

/-- The data of a byte string from an offset on, which may count from the end. -/
def unpackFrom (l : Layout) (b : Bytes) (offset : Int) : Except Fault Datum :=
  let start := if offset < 0 then offset + b.length else offset
  if offset < 0 && 0 < offset + l.size then
    .error (.misuse (.packing (.bufferEnd l.size offset b.length)))
  else if start < 0 then .error (.misuse (.packing (.bufferOffset offset b.length)))
  else if (b.length : Int) < start + l.size then
    .error (.misuse (.packing (.bufferEnd l.size start b.length)))
  else .ok (tuple (l.unpackFields 0 l.fields (b.drop start.toNat)))

/-- The data of the parts of a byte string. -/
def unpackAll (l : Layout) (b : Bytes) : Except Fault Datum :=
  if b.length % l.size ≠ 0 then .error (.misuse (.packing (.bufferParts l.size)))
  else
    .ok (series "_struct.unpack_iterator" ((List.range (b.length / l.size)).map fun (i : Nat) =>
      tuple (l.unpackFields 0 l.fields (b.drop (i * l.size)))))

/-- The bytes of a number in a field. -/
def bytesOfNumber (l : Layout) (c : Char) (d : Datum) : Except Fault Bytes :=
  match d.number? with
  | none => .error (.misuse (.packing .notPackable))
  | some n =>
    let w := l.width c
    let top : Int := Bits.weight (8 * w)
    let (low, high) := if isSigned c then (-(top / 2), top / 2 - 1) else (0, top - 1)
    if c = 'P' then
      if n < -(top / 2) || top ≤ n then .error (.misuse (.packing .packHuge))
      else .ok (Bytes.ofValue w (if n < 0 then n + top else n).toNat)
    else if n < low || high < n then
      let isWide := w = 4 || (w = 2 && l.big)
      let isFar := if isWide && low = 0 then n < 0 || 0x10000000000000000 ≤ n else !Signed.fits n
      if w = 8 || isFar then .error (.misuse (.packing .packRange))
      else .error (.misuse (.packing (.packLimits isWide c low high)))
    else
      let b := Bytes.ofValue w (if n < 0 then n + top else n).toNat
      .ok (if l.big then b.reverse else b)

/-- The bytes of an item in a field. -/
def bytesOfItem (l : Layout) (c : Char) (count : Nat) (d : Datum) : Except Fault Bytes :=
  if c = 's' || c = 'p' then
    match d with
    | bytes b | buffer false b =>
      let size := if c = 's' || count = 0 then count else count - 1
      let kept := b.take (if c = 's' then size else min size 255)
      let filled := (b ++ List.replicate (min size itemRoom) 0).take size
      .ok (if c = 's' || count = 0 then filled else UInt8.ofNat kept.length :: filled)
    | _ => .error (.misuse (.packing (.notPackableBytes c)))
  else if c = 'c' then
    match d with
    | bytes [b] => .ok [b]
    | _ => .error (.misuse (.packing .notPackableChar))
  else if c = '?' then .ok [if d.holds then 1 else 0]
  else if "efd".toList.contains c then
    match d.fraction? with
    | some (.ok x) =>
      let isFar := x.toFloat32.isInf && !x.isInf && !l.native
      let n? := if c = 'd' then some x.toBits.toNat
        else if c = 'e' then toHalf? x
        else if isFar then none
        else some x.toFloat32.toBits.toNat
      match n? with
      | some n =>
        let b := Bytes.ofValue (l.width c) n
        .ok (if l.big then b.reverse else b)
      | none =>
        .error (.misuse
          (if d.number?.isSome then (.packing .packHuge) else (.packing (.packHugeFraction c))))
    | _ => .error (.misuse (.packing .notPackableFraction))
  else l.bytesOfNumber c d

/-- How many data a field takes. -/
def itemCount (c : Char) (count : Nat) : Nat :=
  if c = 'x' then 0 else if c = 's' || c = 'p' then 1 else count

/-- The bytes of the fields, from a position on. -/
def packFields (l : Layout) (position : Nat) : List (Char × Nat) → List Datum →
    Except Fault Bytes
  | [], _ => .ok []
  | (c, count) :: fields, ds => do
    let n := itemCount c count
    let items ← (ds.take n).mapM (l.bytesOfItem c count)
    let own := if c = 'x' then List.replicate (min count itemRoom) 0 else items.flatten
    let before := List.replicate (l.gap position c) 0
    let rest ← packFields l (position + before.length + own.length) fields (ds.drop n)
    return before ++ own ++ rest

/-- How many data a layout takes. -/
def dataCount (l : Layout) : Nat :=
  l.fields.foldl (fun n (c, count) => n + itemCount c count) 0

/-- The byte string of data. -/
def pack (l : Layout) (ds : List Datum) : Except Fault Datum :=
  if ds.length ≠ l.dataCount then .error (.misuse (.packing (.packCount l.dataCount ds.length)))
  else if memoryRoom ≤ l.size then .error .noMemory
  else bytes <$> l.packFields 0 l.fields ds

/-- A buffer with data packed into it from an offset on, which may count from the end. -/
def packInto (l : Layout) (b : Bytes) (offset : Int) (ds : List Datum) : Except Fault Bytes := do
  if offset < 0 && 0 < offset + l.size then throw (.misuse (.packing (.packOffset l.size offset)))
  let start := if offset < 0 then offset + b.length else offset
  if start < 0 then throw (.misuse (.packing (.bufferOffset offset b.length)))
  if (b.length : Int) < start + l.size then
    throw (.misuse (.packing (.packEnd l.size start b.length)))
  let new ← l.packFields 0 l.fields ds
  return b.take start.toNat ++ new ++ b.drop (start.toNat + new.length)

/-- Data as a byte string. -/
def bufferOf (d : Datum) : Except Fault Bytes :=
  match d.bytes? with
  | some b => .ok b
  | none => .error (.misuse (.notBytesLike d.kind))

/-- The value of a function of a layout. -/
def call (l : Layout) (name : String) (a : Arguments) : Except Fault Datum :=
  match name, a.plain with
  | "pack", ds => l.pack ds
  | "unpack", [d] => do l.unpack (← bufferOf d)
  | "unpack_from", _ => do
    let args ← ordered name ["buffer", "offset"] 0 1 a
    let b ← bufferOf ((args.headD none).getD absent)
    l.unpackFrom b (← ((args.drop 1).headD none).elim (pure 0) wholeOf)
  | "iter_unpack", [d] => do
    if l.size = 0 then throw (.misuse (.packing .emptyLayout))
    l.unpackAll (← bufferOf d)
  | name, ds => .error (countFault ("Struct." ++ name) (.exactlyOne ds.length))

/-- A layout as a thing with its text and its size. -/
def datum (format : String) (size : Nat) : Datum :=
  thing "_struct.Struct" "" [("format", text format), ("size", number size)]

end Layout

end Nsis.Datum
