import Nsis.Datum.Encoding
import Nsis.Datum.Format
import Nsis.Datum.Search
import Nsis.Text.Case

/-!
# Functions of texts

What the functions that belong to texts give.

## Main definitions

* `Nsis.Datum.translated` — a text with its characters replaced by a table.
* `Nsis.Datum.callTextMethod` — the value of a function of a text.
-/

namespace Nsis.Datum

/-! ### Characters -/

/-- The questions about the characters of a text. -/
def textQuestion? (name : String) (cs : List Char) : Option Bool :=
  let every := fun (p : Char → Bool) => !cs.isEmpty && cs.all p
  match name with
  | "isdecimal" => some (every Text.isDecimal)
  | "isdigit" => some (every Text.isDigitLike)
  | "isnumeric" => some (every Text.isNumberLike)
  | "isalpha" => some (every Text.isLetter)
  | "isalnum" => some (every fun c => Text.isLetter c || Text.isNumberLike c)
  | "isupper" => some (cs.any Text.isLarge && !cs.any fun c => Text.isSmall c || Text.isTitle c)
  | "islower" => some (cs.any Text.isSmall && !cs.any fun c => Text.isLarge c || Text.isTitle c)
  | "isspace" => some (every Text.isSpace)
  | "isascii" => some (cs.all fun c => c.toNat < 0x80)
  | "isprintable" => some (cs.all Text.isPrintable)
  | "isidentifier" => some (cs.head?.any Text.isWordStart && cs.all Text.isWordPart)
  | "istitle" => some (Text.isTitledFrom false false cs)
  | _ => none

/-- A text with other characters, for the functions that only change these. -/
def textChanged? (name : String) (cs : List Char) : Option (List Char) :=
  match name with
  | "upper" => some (cs.flatMap Text.upper)
  | "lower" => some (Text.lowered cs)
  | "casefold" => some (cs.flatMap Text.folded)
  | "capitalize" => some (Text.capitalized cs)
  | "title" => some (Text.titled cs)
  | "swapcase" => some (Text.swapped cs)
  | _ => none

/-- A sequence without the items of a set around it. -/
def stripped {α : Type} (name : String) (p : α → Bool) (xs : List α) : List α :=
  let xs := if name = "rstrip" then xs else xs.dropWhile p
  if name = "lstrip" then xs else (xs.reverse.dropWhile p).reverse

/-- A sequence filled up to a width. Of an odd gap in the middle, the larger half is on the left if
the width is odd. -/
def justified {α : Type} (name : String) (fill : α) (width : Int) (xs : List α) : List α :=
  let n := (width - xs.length).toNat
  let gap := fun (n : Nat) => List.replicate n fill
  if name = "ljust" then xs ++ gap n
  else if name = "rjust" then gap n ++ xs
  else
    let left := n / 2 + if n % 2 = 1 && width % 2 = 1 then 1 else 0
    gap left ++ xs ++ gap (n - left)

/-- A numeral filled up to a width with zeros behind its sign. -/
def zeroFilled {α : Type} (isSign : α → Bool) (zero : α) (width : Int) (xs : List α) : List α :=
  let sign := (xs.take 1).filter isSign
  sign ++ List.replicate (width - xs.length).toNat zero ++ xs.drop sign.length

/-- A sequence with blanks instead of tabulators, up to the next column that is a multiple of a
number. -/
def tabsExpanded {α : Type} (isTab isEnd : α → Bool) (blank : α) (size : Nat) :
    (column : Nat) → List α → List α
  | _, [] => []
  | column, x :: xs =>
    if isTab x then
      let n := if size = 0 then 0 else size - column % size
      List.replicate n blank ++ tabsExpanded isTab isEnd blank size (column + n) xs
    else x :: tabsExpanded isTab isEnd blank size (if isEnd x then 0 else column + 1) xs

/-- The number of parts that an argument allows; a negative one does not limit them. -/
def limitOf (usual : Nat) (d : Option Datum) : Except Fault Nat := do
  match d with
  | none => return usual
  | some d =>
    let n ← wholeOf d
    return if n < 0 then usual else min usual n.toNat

/-! ### Tables -/

/-- A key of a table of characters. -/
def tableKey (d : Datum) : Except Fault Datum :=
  match d with
  | text s =>
    match s.toList with
    | [c] => .ok (number c.toNat)
    | _ => .error (.misuse .tableKeyLength)
  | number n => .ok (number n)
  | _ => .error (.misuse .tableKeyKind)

/-- A table of characters from a record, or from characters with those that replace them and others
that are left out. -/
def tableOf (args : List Datum) : Except Fault Datum := do
  let codes := fun (s : String) => s.toList.map fun c => number c.toNat
  let recordOf := fun (pairs : List (Datum × Datum)) =>
    let (keys, values) := pairs.foldl (fun (ks, vs) (k, v) => insert ks vs k v) ([], [])
    record keys values
  let wordAt := fun (i : Nat) (d : Datum) => match d with
    | text s => Except.ok s
    | d => .error (.misuse (.argumentKind "maketrans" (some i) "" "str" d.kind))
  match args with
  | [record keys values] => return recordOf ((← keys.mapM tableKey).zip values)
  | first :: second :: rest =>
    let t ← wordAt 2 second
    let dropped ← rest.mapM (wordAt 3)
    match first with
    | text s =>
      if s.length ≠ t.length then throw (.misuse (.tableLengths false))
      return recordOf ((codes s).zip (codes t)
        ++ (dropped.flatMap codes).map fun (code : Datum) => (code, absent))
    | _ => throw (.misuse .tableFirst)
  | _ => throw (.misuse .tableRecord)

/-- The characters that a table has for one. -/
def tableEntry (table : Datum) (c : Char) : Except Fault (List Char) :=
  match table.item (number c.toNat) with
  | .ok absent => .ok []
  | .ok (text s) => .ok s.toList
  | .ok d =>
    match d.number? with
    | some n =>
      if n < 0 || 0x110000 ≤ n then .error (.misuse .tableRange) else .ok [Char.ofNat n.toNat]
    | none => .error (.misuse .tableValue)
  | .error cause@(.misuse (.noItems _)) => .error cause
  | .error _ => .ok [c]

/-- A text with its characters replaced by a table. -/
def translated (table : Datum) (cs : List Char) : Except Fault (List Char) := do
  return (← cs.mapM (tableEntry table)).flatten

/-! ### Texts -/

/-- Texts that are to be joined. -/
def joinedTexts (index : Nat) : List Datum → Except Fault (List String)
  | [] => .ok []
  | text s :: ds => do return s :: (← joinedTexts (index + 1) ds)
  | d :: _ => .error (.misuse (.notJoined index d.kind))

/-- The items of a group that are to be joined. -/
def joinedItems (d : Datum) : Except Fault (List Datum) :=
  match d.members with
  | .ok items => .ok items
  | .error _ => .error (.misuse .notJoinable)

/-- The single character that fills a text up. -/
def fillOf : List Datum → Except Fault Char
  | [] => .ok ' '
  | text s :: _ =>
    match s.toList with
    | [c] => .ok c
    | _ => .error (.misuse .fillWidth)
  | d :: _ => .error (.misuse (.fillKind d.kind))

/-- The parts of a text between its separators. -/
def splitText (name : String) (cs : List Char) (a : Arguments) : Except Fault Datum := do
  let args ← ordered name ["sep", "maxsplit"] 0 0 a
  let limit ← limitOf cs.length ((args.drop 1).headD none)
  let parts := fun (ps : List (List Char)) => list (ps.map fun cs => text (String.ofList cs))
  let isLast := name = "rsplit"
  match args.headD none with
  | none | some absent =>
    return parts ((if isLast then lastBlankParts else blankParts) Text.isSpace limit cs)
  | some (text t) =>
    if t.isEmpty then throw (.misuse .emptySeparator)
    return parts ((if isLast then splitAtLast else splitAtPiece) t.toList limit cs)
  | some d => throw (.misuse (.notSeparator d.kind))

/-- The value of a function of a text. -/
def callTextMethod (s name : String) (a : Arguments) : Except Fault Datum :=
  let cs := s.toList
  let ofChars := fun (cs : List Char) => text (String.ofList cs)
  match textQuestion? name cs, textChanged? name cs, textArity? name, a.plain with
  | some b, _, _, _ => .ok (truth b)
  | _, some cs, _, _ => .ok (ofChars cs)
  | _, _, some .search, args => searchText name cs args
  | _, _, _, args =>
    match name, args with
    | "join", [d] => do
      return text (String.intercalate s (← joinedTexts 0 (← joinedItems d)))
    | "split", _ | "rsplit", _ => splitText name cs a
    | "splitlines", _ => do
      let args ← ordered name ["keepends"] 0 0 a
      let keep ← (args.headD none).elim (pure false) fun d => (· ≠ 0) <$> wholeOf d
      return list ((lines Text.isLineEnd '\r' '\n' keep cs.length cs).map ofChars)
    | "strip", args | "lstrip", args | "rstrip", args =>
      match args with
      | [] | absent :: _ => .ok (ofChars (stripped name Text.isSpace cs))
      | text t :: _ => .ok (ofChars (stripped name (t.toList.contains ·) cs))
      | _ => .error (.misuse (.notStripped name))
    | "replace", d :: e :: rest =>
      match d, e with
      | text t, text u => do
        let limit ← limitOf (cs.length + 1) rest.head?
        return ofChars (replacePiece t.toList u.toList (cs.length + 1) limit cs)
      | text _, e => .error (.misuse (.argumentKind name (some 2) "" "str" e.kind))
      | d, _ => .error (.misuse (.argumentKind name (some 1) "" "str" d.kind))
    | "encode", _ => do
      let (encoding, handler) ← encodingOf name (← ordered name ["encoding", "errors"] 0 0 a)
      encoded s encoding handler
    | "partition", [d] | "rpartition", [d] =>
      match d with
      | text t =>
        let find := if name = "partition" then indexOf? t.toList else lastIndexOf? t.toList
        if t.isEmpty then .error (.misuse .emptySeparator)
        else
          match find cs with
          | some i => .ok (tuple [ofChars (cs.take i), text t, ofChars (cs.drop (i + t.length))])
          | none => .ok (tuple (if name = "partition" then [text s, text "", text ""]
              else [text "", text "", text s]))
      | d => .error (.misuse (.notSought d.kind))
    | "zfill", [d] => do
      return ofChars (zeroFilled (fun c => c = '+' || c = '-') '0' (← wholeOf d) cs)
    | "center", d :: rest | "ljust", d :: rest | "rjust", d :: rest => do
      let n ← wholeOf d
      return ofChars (justified name (← fillOf rest) n cs)
    | "removeprefix", [d] | "removesuffix", [d] =>
      match d with
      | text t =>
        if name = "removeprefix" then
          .ok (if s.startsWith t then ofChars (cs.drop t.length) else text s)
        else .ok (if s.endsWith t then ofChars (cs.take (cs.length - t.length)) else text s)
      | d => .error (.misuse (.argumentKind name none "" "str" d.kind))
    | "expandtabs", _ => do
      let args ← ordered name ["tabsize"] 0 0 a
      let size ← (args.headD none).elim (pure 8) wholeOf
      let isEnd := fun (c : Char) => c = '\n' || c = '\r'
      return ofChars (tabsExpanded (· = '\t') isEnd ' ' size.toNat 0 cs)
    | "maketrans", args => tableOf args
    | "translate", [d] => ofChars <$> translated d cs
    | "translate", ds => .error (countFault "str.translate" (.exactlyOne ds.length))
    | _, _ => .ok (text s)

end Nsis.Datum
