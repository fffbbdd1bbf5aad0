import Nsis.Datum.TextMethod

/-!
# Functions of byte strings

What the functions that belong to byte strings give. Bytes count as the letters of ASCII that they
stand for.

## Main definitions

* `Nsis.Datum.callBytesMethod` — the value of a function of a byte string.
-/

namespace Nsis.Datum

/-- Byte strings that are to be joined. -/
def joinedBytes (index : Nat) : List Datum → Except Fault (List Bytes)
  | [] => .ok []
  | d :: ds =>
    match d.bytes? with
    | some b => do return b :: (← joinedBytes (index + 1) ds)
    | none => .error (.misuse (.notJoinedBytes index d.kind))

/-- Data as a byte string. -/
def bytesArgument (d : Datum) : Except Fault Bytes :=
  match d.bytes? with
  | some b => .ok b
  | none => .error (.misuse (.notBytesLike d.kind))

/-- The single byte that fills a byte string up. -/
def fillByte (function : String) : List Datum → Except Fault UInt8
  | [] => .ok 0x20
  | d :: _ =>
    match d.bytes? with
    | some [b] => .ok b
    | _ => .error (.misuse (.argumentKind function (some 2) "" "a byte string of length 1" d.kind))

/-- The parts of a byte string between its separators. -/
def splitBytes (name : String) (b : Bytes) (a : Arguments) : Except Fault Datum := do
  let args ← ordered name ["sep", "maxsplit"] 0 0 a
  let limit ← limitOf b.length ((args.drop 1).headD none)
  let isLast := name = "rsplit"
  let isBlank := fun (c : UInt8) => Text.isBlank (Char.ofNat c.toNat)
  match args.headD none with
  | none | some absent =>
    return list (((if isLast then lastBlankParts else blankParts) isBlank limit b).map bytes)
  | some d =>
    let c ← bytesArgument d
    if c.isEmpty then throw (.misuse .emptySeparator)
    return list (((if isLast then splitAtLast else splitAtPiece) c limit b).map bytes)

/-- Digits with a mark between groups of bytes, which are counted from the end, or from the start if
their size is negative. -/
def hexDigits (mark : List Char) (size : Int) (b : Bytes) : List Char :=
  let digits := fun (c : UInt8) => Text.padded 2 c.toNat
  if mark.isEmpty || size = 0 then b.flatMap digits
  else
    let n := b.length
    let isBreak := fun (i : Nat) =>
      i ≠ 0 && (if size < 0 then i % size.natAbs = 0 else (n - i) % size.natAbs = 0)
    (b.mapIdx fun i c => (if isBreak i then mark else []) ++ digits c).flatten

/-- The digits of a byte string, with a mark between groups where asked for. -/
def hexOf (b : Bytes) (a : Arguments) : Except Fault Datum := do
  let args ← ordered "hex" ["sep", "bytes_per_sep"] 0 0 a
  let size ← ((args.drop 1).headD none).elim (pure 1) wholeOf
  let mark ← match args.headD none with
    | none => pure []
    | some d =>
      if (← d.size) ≠ 1 then throw (.misuse .markLength)
      match d, d.bytes? with
      | text s, _ =>
        if s.toList.any fun c => 0x80 ≤ c.toNat then throw (.misuse .markRange)
        pure s.toList
      | _, some [c] =>
        if 0x80 ≤ c then throw (.misuse .markRange)
        pure [Char.ofNat c.toNat]
      | _, _ => throw (.misuse .markKind)
  return text (String.ofList (hexDigits mark size b))

/-- A byte string with its bytes replaced by a table and some left out. -/
def translatedBytes (b : Bytes) (a : Arguments) : Except Fault Datum := do
  let args ← ordered "translate" ["", "delete"] 1 1 a
  let table ← match args.headD none with
    | none | some absent => pure ((List.range 256).map fun (i : Nat) => UInt8.ofNat i)
    | some d => bytesArgument d
  if table.length ≠ 256 then throw (.misuse .tableSize)
  let dropped ← ((args.drop 1).headD none).elim (pure []) bytesArgument
  return bytes ((b.filter (!dropped.contains ·)).map fun c => table.getD c.toNat 0)

/-- A table of bytes from bytes and those that replace them. -/
def bytesTable (args : List Datum) : Except Fault Datum := do
  match ← between "maketrans" 2 2 args with
  | [d, e] =>
    let b ← bytesArgument d
    let c ← bytesArgument e
    if b.length ≠ c.length then throw (.misuse (.tableLengths true))
    return bytes ((List.range 256).map fun (i : Nat) =>
      (((b.zip c).reverse.lookup (UInt8.ofNat i))).getD (UInt8.ofNat i))
  | _ => return absent

/-- The questions about the letters of ASCII that bytes stand for. -/
def asciiQuestion? (name : String) (cs : List Char) : Option Bool :=
  let isPlain := cs.all fun c => c.toNat < 0x80
  match name with
  | "isupper" => some (cs.any Char.isUpper && !cs.any Char.isLower)
  | "islower" => some (cs.any Char.isLower && !cs.any Char.isUpper)
  | "isspace" => some (!cs.isEmpty && cs.all Text.isBlank)
  | "istitle" =>
    some (Text.isTitledFrom false false (cs.map fun c => if c.toNat < 0x80 then c else ' '))
  | "isdigit" | "isalpha" | "isalnum" | "isascii" =>
    (textQuestion? name cs).map (· && isPlain)
  | _ => none

/-- A byte string with other letters of ASCII, for the functions that only change these. -/
def asciiChanged? (name : String) (cs : List Char) : Option (List Char) :=
  let plain := cs.map fun c => if c.toNat < 0x80 then c else ' '
  (textChanged? name plain).map fun new =>
    List.zipWith (fun c d => if c.toNat < 0x80 then d else c) cs new

/-- The value of a function of a byte string. -/
def callBytesMethod (b : Bytes) (name : String) (a : Arguments) : Except Fault Datum :=
  let cs := b.map fun c => Char.ofNat c.toNat
  let ofChars := fun (cs : List Char) => bytes (cs.map fun c => UInt8.ofNat c.toNat)
  match asciiQuestion? name cs, asciiChanged? name cs, textArity? name, a.plain with
  | some b, _, _, _ => .ok (truth b)
  | _, some cs, _, _ => .ok (ofChars cs)
  | _, _, some .search, args => searchBytes name b args
  | _, _, _, args =>
    match name, args with
    | "decode", _ => do
      let (encoding, handler) ← encodingOf name (← ordered name ["encoding", "errors"] 0 0 a)
      decoded b encoding handler
    | "hex", _ => hexOf b a
    | "join", [d] => do
      let bs ← joinedBytes 0 (← joinedItems d)
      return bytes ((bs.intersperse b).flatten)
    | "split", _ | "rsplit", _ => splitBytes name b a
    | "splitlines", _ => do
      let args ← ordered name ["keepends"] 0 0 a
      let keep ← (args.headD none).elim (pure false) fun d => (· ≠ 0) <$> wholeOf d
      let isEnd := fun (c : UInt8) => c = 10 || c = 13
      return list ((lines isEnd 13 10 keep b.length b).map bytes)
    | "replace", d :: e :: rest => do
      let c ← bytesArgument d
      let new ← bytesArgument e
      let limit ← limitOf (b.length + 1) rest.head?
      return bytes (replacePiece c new (b.length + 1) limit b)
    | "strip", args | "lstrip", args | "rstrip", args =>
      match args with
      | [] | absent :: _ => .ok (ofChars (stripped name Text.isBlank cs))
      | d :: _ => do
        let c ← bytesArgument d
        return bytes (stripped name (c.contains ·) b)
    | "partition", [d] | "rpartition", [d] => do
      let c ← bytesArgument d
      if c.isEmpty then throw (.misuse .emptySeparator)
      match (if name = "partition" then indexOf? c b else lastIndexOf? c b) with
      | some i => return tuple [bytes (b.take i), bytes c, bytes (b.drop (i + c.length))]
      | none => return tuple (if name = "partition" then [bytes b, bytes [], bytes []]
          else [bytes [], bytes [], bytes b])
    | "zfill", [d] => do
      return bytes (zeroFilled (fun c => c = 0x2b || c = 0x2d) 0x30 (← wholeOf d) b)
    | "center", d :: rest | "ljust", d :: rest | "rjust", d :: rest => do
      let n ← wholeOf d
      return bytes (justified name (← fillByte name rest) n b)
    | "removeprefix", [d] => do
      let c ← bytesArgument d
      return bytes (if c.isPrefixOf b then b.drop c.length else b)
    | "removesuffix", [d] => do
      let c ← bytesArgument d
      return bytes (if c.isSuffixOf b then b.take (b.length - c.length) else b)
    | "expandtabs", _ => do
      let args ← ordered name ["tabsize"] 0 0 a
      let size ← (args.headD none).elim (pure 8) wholeOf
      return bytes (tabsExpanded (· = 9) (fun c => c = 10 || c = 13) 0x20 size.toNat 0 b)
    | "translate", _ => translatedBytes b a
    | "maketrans", args => bytesTable args
    | _, _ => .ok (bytes b)

end Nsis.Datum
