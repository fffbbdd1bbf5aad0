import Nsis.Datum.Search
import Nsis.Text.Charset

/-!
# Encodings

A text is a byte string in an encoding. What an encoding does not have is refused, left out, or
replaced by something else.

## Main definitions

* `Nsis.Datum.Encoding` — encodings.
* `Nsis.Datum.decoded` — a byte string as a text.
* `Nsis.Datum.encoded` — a text as a byte string.
-/

namespace Nsis.Datum

/-- Encodings of texts. -/
inductive Encoding where
  /-- Characters of one to four bytes, with a mark in front where asked for. -/
  | utf8 (marked : Bool)
  | ascii
  /-- Every byte is the character with its number. -/
  | latin
  /-- Words of two bytes, the most significant one first or last, with a mark of the order in front
  where asked for. -/
  | utf16 (big marked : Bool)
  /-- Words of four bytes. -/
  | utf32 (big marked : Bool)
  /-- A set of characters of one byte. -/
  | charset (s : Text.Charset)
  /-- What is not in ASCII, or in the characters of one byte if so asked for, is written as an
  escape. -/
  | escaped (onlyWide : Bool)
  deriving DecidableEq, Repr

namespace Encoding

/-- The names of encodings. -/
def names : List (Encoding × List String) := [
  (.utf8 false, ["utf_8", "utf8", "u8", "utf", "cp65001", "utf8_ucs2", "utf8_ucs4"]),
  (.utf8 true, ["utf_8_sig"]),
  (.ascii, ["ascii", "us_ascii", "646", "us", "iso646_us", "cp367", "csascii", "ibm367", "iso_ir_6",
    "ansi_x3.4_1968", "ansi_x3_4_1968", "ansi_x3.4_1986", "iso_646.irv_1991", "idna", "utf_7",
    "utf7", "u7"]),
  (.latin, ["latin_1", "latin1", "iso8859_1", "iso_8859_1", "l1", "latin", "8859", "cp819",
    "iso8859", "ibm819", "csisolatin1", "iso_8859_1_1987", "iso_ir_100"]),
  (.utf16 false true, ["utf_16", "utf16", "u16"]),
  (.utf16 false false, ["utf_16_le", "utf_16le", "unicodelittleunmarked"]),
  (.utf16 true false, ["utf_16_be", "utf_16be", "unicodebigunmarked"]),
  (.utf32 false true, ["utf_32", "utf32", "u32"]),
  (.utf32 false false, ["utf_32_le", "utf_32le"]),
  (.utf32 true false, ["utf_32_be", "utf_32be"]),
  (.charset .windowsWestern, ["cp1252", "1252", "windows_1252"]),
  (.charset .windowsCyrillic, ["cp1251", "1251", "windows_1251"]),
  (.charset .russian, ["koi8_r", "cskoi8r"]),
  (.charset .terminal, ["cp437", "437", "ibm437", "cspc8codepage437"]),
  (.charset .terminalWestern, ["cp850", "850", "ibm850", "cspc850multilingual"]),
  (.charset .latinNine, ["iso8859_15", "iso_8859_15", "l9", "latin9"]),
  (.escaped false, ["unicode_escape"]),
  (.escaped true, ["raw_unicode_escape"])]

/-- The names of encodings that are not of texts. -/
def otherNames : List String := [
  "hex", "hex_codec", "base64", "base64_codec", "base_64", "bz2", "bz2_codec", "zlib", "zip",
  "zlib_codec", "rot13", "rot_13", "quopri", "quopri_codec", "quoted_printable", "quotedprintable",
  "uu", "uu_codec"]

/-- The words of a name, in small letters; what is neither a letter nor a digit is between them. -/
def wordsOf (name : String) : List (List Char) :=
  let isInner := fun (c : Char) => c.isAlphanum || c = '.' || 0x80 ≤ c.toNat
  (blankParts (fun c => !isInner c) name.length name.toList).map fun word =>
    (word.filter (·.toNat < 0x80)).map Char.toLower

/-- The encoding with a name, in order to read bytes or to write them. -/
def ofName (decodes : Bool) (name : String) : Except Fault Encoding :=
  let usual := String.intercalate "_" ((wordsOf name).map String.ofList)
  if name.toList.contains '\x00' then .error (.misuse (.encoding .nullInName))
  else
    match names.find? fun (_, words) => words.contains usual with
    | some (e, _) => .ok e
    | none =>
      .error (.misuse
        (if otherNames.contains usual then (.encoding (.notTextEncoding decodes name))
        else (.encoding (.unknownEncoding name))))

end Encoding

/-! ### Bytes to characters -/

/-- What stands at the start of a byte string: a character of some bytes, or some bytes that are
none, with the reason. -/
inductive Decoded where
  | char (c : Char) (count : Nat)
  | bad (count : Nat) (reason : String)

/-- Whether a byte continues a character. -/
def isContinuation (b : UInt8) : Bool :=
  0x80 ≤ b && b < 0xc0

/-- Whether a byte can be the second one behind a first one. -/
def isSecond (first second : UInt8) : Bool :=
  isContinuation second && (first ≠ 0xe0 || 0xa0 ≤ second) && (first ≠ 0xed || second < 0xa0)
    && (first ≠ 0xf0 || 0x90 ≤ second) && (first ≠ 0xf4 || second < 0x90)

/-- What stands at the start of a byte string in characters of one to four bytes. -/
def firstChar (first : UInt8) (rest : Bytes) : Decoded :=
  let size := if first < 0x80 then 1 else if first < 0xc2 then 0 else if first < 0xe0 then 2
    else if first < 0xf0 then 3 else if first < 0xf5 then 4 else 0
  let tail := rest.take (size - 1)
  let good := match tail with
    | second :: others => if isSecond first second then 1 + (others.takeWhile isContinuation).length
      else 0
    | [] => 0
  if size = 0 then .bad 1 "invalid start byte"
  else if good < tail.length then .bad (good + 1) "invalid continuation byte"
  else if tail.length + 1 < size then .bad (rest.length + 1) "unexpected end of data"
  else
    let head := if size = 1 then first.toNat else first.toNat % Nat.pow 2 (7 - size)
    .char (Char.ofNat (tail.foldl (fun n b => n * 64 + b.toNat % 64) head)) size

/-- What stands at the start of a byte string of words. -/
def firstWord (e : Encoding) (first : UInt8) (rest : Bytes) : Decoded :=
  let all := first :: rest
  let wordAt := fun (big : Bool) (size i : Nat) =>
    let b := (all.drop i).take size
    Bytes.value (if big then b.reverse else b)
  match e with
  | .utf16 big _ =>
    if rest.isEmpty then .bad 1 "truncated data"
    else
      let n := wordAt big 2 0
      if n < 0xd800 || 0xe000 ≤ n then .char (Char.ofNat n) 2
      else if 0xdc00 ≤ n then .bad 2 "illegal encoding"
      else if rest.length < 3 then .bad all.length "unexpected end of data"
      else
        let low := wordAt big 2 2
        if 0xdc00 ≤ low && low < 0xe000 then
          .char (Char.ofNat (0x10000 + (n - 0xd800) * 0x400 + (low - 0xdc00))) 4
        else .bad 2 "illegal UTF-16 surrogate"
  | .utf32 big _ =>
    if rest.length < 3 then .bad all.length "truncated data"
    else
      let n := wordAt big 4 0
      if n < 0xd800 || (0xe000 ≤ n && n < 0x110000) then .char (Char.ofNat n) 4
      else if 0x110000 ≤ n then .bad 4 "code point not in range(0x110000)"
      else .bad 4 "code point in surrogate code point range(0xd800, 0xe000)"
  | .latin => .char (Char.ofNat first.toNat) 1
  | .ascii =>
    if first < 0x80 then .char (Char.ofNat first.toNat) 1 else .bad 1 "ordinal not in range(128)"
  | .utf8 _ => firstChar first rest
  | .charset s =>
    match s.char? first with
    | some c => .char c 1
    | none => .bad 1 "character maps to <undefined>"
  | .escaped _ => .char (Char.ofNat first.toNat) 1

/-- What faults call an encoding. -/
def Encoding.title : Encoding → String
  | utf8 _ => "utf-8"
  | ascii => "ascii"
  | latin => "latin-1"
  | utf16 big _ => if big then "utf-16-be" else "utf-16-le"
  | utf32 big _ => if big then "utf-32-be" else "utf-32-le"
  | charset _ => "charmap"
  | escaped _ => "unicodeescape"

/-- What stands for bytes that are no character, as a way to go on says. -/
def substitute? (handler : String) (b : Bytes) : Except Fault (Option (List Char)) :=
  match handler with
  | "strict" => .ok none
  | "ignore" => .ok (some [])
  | "replace" => .ok (some [Char.ofNat 0xfffd])
  | "backslashreplace" =>
    .ok (some (b.flatMap fun c => '\\' :: 'x' :: Text.padded 2 c.toNat))
  | "surrogateescape" | "surrogatepass" => .ok none
  | "xmlcharrefreplace" | "namereplace" => .error (.misuse (.encoding .oneWayHandler))
  | name => .error (.misuse (.encoding (.unknownHandler name)))

/-- The characters of a byte string from a position on. -/
def charsFrom (e : Encoding) (handler : String) :
    (fuel : Nat) → (position : Nat) → Bytes → Except Fault (List Char)
  | 0, _, _ | _, _, [] => .ok []
  | fuel + 1, position, b :: bs =>
    match firstWord e b bs with
    | .char c count =>
      (c :: ·) <$> charsFrom e handler fuel (position + count) ((b :: bs).drop count)
    | .bad count reason => do
      match ← substitute? handler ((b :: bs).take count) with
      | none => throw (.misuse (.encoding (.undecodable e.title b position count reason)))
      | some cs =>
        return cs ++ (← charsFrom e handler fuel (position + count) ((b :: bs).drop count))

/-- The encoding of a byte string with a mark of the order of bytes, and what follows it. -/
def withoutMark (e : Encoding) (b : Bytes) : Encoding × Bytes :=
  match e, b with
  | .utf8 true, 0xef :: 0xbb :: 0xbf :: rest => (e, rest)
  | .utf16 _ true, 0xff :: 0xfe :: rest => (.utf16 false true, rest)
  | .utf16 _ true, 0xfe :: 0xff :: rest => (.utf16 true true, rest)
  | .utf32 _ true, 0xff :: 0xfe :: 0 :: 0 :: rest => (.utf32 false true, rest)
  | .utf32 _ true, 0 :: 0 :: 0xfe :: 0xff :: rest => (.utf32 true true, rest)
  | e, b => (e, b)

/-- A byte string as a text in an encoding. The name of the encoding does not matter if there are no
bytes. -/
def decoded (b : Bytes) (encoding handler : String) : Except Fault Datum := do
  if b.isEmpty && !encoding.toList.contains '\x00' then return text ""
  let (e, c) := withoutMark (← Encoding.ofName true encoding) b
  let start := if e = .utf8 true then 0 else b.length - c.length
  return text (String.ofList (← charsFrom e handler c.length start c))

/-! ### Characters to bytes -/

/-- The bytes of a character, if an encoding has it. -/
def bytesOf? (e : Encoding) (c : Char) : Option Bytes :=
  let word := fun (big : Bool) (size n : Nat) =>
    let b := Bytes.ofValue size n
    if big then b.reverse else b
  match e with
  | .utf8 _ => some (String.ofList [c]).toUTF8.toList
  | .ascii => if c.toNat < 0x80 then some [UInt8.ofNat c.toNat] else none
  | .latin => if c.toNat < 0x100 then some [UInt8.ofNat c.toNat] else none
  | .utf16 big _ =>
    let n := c.toNat
    if n < 0x10000 then some (word big 2 n)
    else some (word big 2 (0xd800 + (n - 0x10000) / 0x400)
      ++ word big 2 (0xdc00 + (n - 0x10000) % 0x400))
  | .utf32 big _ => some (word big 4 c.toNat)
  | .charset s => (s.byte? c).map fun b => [b]
  | .escaped onlyWide =>
    let shown := if onlyWide && c.toNat < 0x100 then [c]
      else if c.toNat < 0x80 then Text.quotedChar '\\' c
      else Text.escaped c
    some (shown.map fun c => UInt8.ofNat c.toNat)

/-- What stands for a character that an encoding does not have, as a way to go on says. -/
def replacement? (handler : String) (c : Char) : Except Fault (Option (List Char)) :=
  match handler with
  | "strict" => .ok none
  | "ignore" => .ok (some [])
  | "replace" => .ok (some ['?'])
  | "backslashreplace" => .ok (some (Text.escaped c))
  | "xmlcharrefreplace" => .ok (some ("&#" ++ Text.decimal c.toNat ++ ";").toList)
  | "surrogateescape" | "surrogatepass" => .ok none
  | name => .error (.misuse (.encoding (.unknownHandler name)))

/-- The limit of the numbers of the characters that an encoding has, if there is one. -/
def Encoding.limit : Encoding → Option Nat
  | charset _ => none
  | ascii => some 128
  | _ => some 256

/-- The bytes of characters from a position on. -/
def bytesFromChars (e : Encoding) (handler : String) (position : Nat) :
    List Char → Except Fault Bytes
  | [] => .ok []
  | c :: cs =>
    match bytesOf? e c with
    | some b => (b ++ ·) <$> bytesFromChars e handler (position + 1) cs
    | none => do
      match ← replacement? handler c with
      | some new =>
        return new.flatMap (fun c => (bytesOf? e c).getD [])
          ++ (← bytesFromChars e handler (position + 1) cs)
      | none =>
        let count := 1 + (cs.takeWhile fun c => (bytesOf? e c).isNone).length
        throw (.misuse (.encoding (.notEncodable e.title c position count e.limit)))

/-- The mark of the order of bytes that an encoding begins with. -/
def Encoding.mark : Encoding → Bytes
  | utf8 true => [0xef, 0xbb, 0xbf]
  | utf16 false true => [0xff, 0xfe]
  | utf32 false true => [0xff, 0xfe, 0, 0]
  | _ => []

/-- A text as a byte string in an encoding. -/
def encoded (s encoding handler : String) : Except Fault Datum := do
  let e ← Encoding.ofName false encoding
  return bytes (e.mark ++ (← bytesFromChars e handler 0 s.toList))

/-- The encoding and the way to go on behind an error that the arguments of a function name. -/
def encodingOf (function : String) (ds : List (Option Datum)) : Except Fault (String × String) := do
  let word := fun (label usual : String) (d : Option Datum) => match d with
    | none => Except.ok usual
    | some (text s) => .ok s
    | some d => .error (.misuse (.argumentKind function none label "str" d.kind))
  let encoding ← word "encoding" "utf-8" (ds.headD none)
  return (encoding, ← word "errors" "strict" ((ds.drop 1).headD none))

end Nsis.Datum
