import Nsis.Bytes
import Nsis.Fault
import Nsis.Signed
import Nsis.Symbol.Basic
import Nsis.Symbol.CodeSet

/-!
# Decoding strings

A string is read from a block as tokens: a code byte with its two parameter bytes, or a single
character. It ends at the first zero byte that starts a token, at the end of the block, or after
1024 bytes. Adjacent characters form one literal symbol.

## Main definitions

* `Nsis.Token` — a code with its meaning, or one character.
* `Nsis.tokens` — the tokens in the first bytes of a byte string.
* `Nsis.Symbol.ofTokens` — the symbols that a sequence of tokens stands for.
* `Nsis.symbolize` — the symbols of the string at an offset of a block.
* `Nsis.decodeString` — its text.
-/

namespace Nsis

/-- A string is read no further than this many bytes. -/
def maxStringLength : Nat := 1024

/-- One unit of a coded string: a symbol that a code byte introduces, or a plain character. -/
inductive Token where
  | symbol (s : Symbol)
  | char (c : UInt8)
  deriving DecidableEq, Repr

/-- The symbol of code byte `c` with parameters `p` and `q`. Variables and language strings have a
number of fourteen bits, seven from each parameter; a shell folder has the parameters themselves. -/
def CodeSet.symbol (codes : CodeSet) (c p q : UInt8) : Symbol :=
  if c = codes.shell then .shell p.toNat q.toNat
  else
    let number := (p &&& 0x7f).toNat + 128 * (q &&& 0x7f).toNat
    if c = codes.var then .var number else .lang number

/-- The tokens in the first `room` bytes of a byte string and how many bytes they take, the closing
zero byte included. A code byte needs two bytes after it. The skip byte cannot be expanded: with a
byte after it that byte is no text, and without one there is nothing to take. -/
def tokens (codes : CodeSet) : (room : Nat) → Bytes → Except Fault (List Token × Nat)
  | 0, _ => .ok ([], 0)
  | _ + 1, [] => .ok ([], 0)
  | room + 1, c :: rest =>
    if c = 0 then .ok ([], 1)
    else if codes.isCode c then
      match room, rest with
      | room + 2, p :: q :: rest => do
        let (ts, n) ← tokens codes room rest
        .ok (.symbol (codes.symbol c p q) :: ts, n + 3)
      | _, _ => .error .byteRange
    else if c = codes.skip then
      match room, rest with
      | _ + 1, _ :: _ => .error (.notText .number)
      | _, _ => .error .byteRange
    else do
      let (ts, n) ← tokens codes room rest
      .ok (.char c :: ts, n + 1)

/-- A character of a literal. Five of them would be taken for something else when the text is read
again and are written after a dollar sign. -/
def escaped (c : UInt8) : List Char :=
  match c with
  | 0x09 => ['$', '\\', 't']
  | 0x0a => ['$', '\\', 'n']
  | 0x0d => ['$', '\\', 'r']
  | 0x22 => ['$', '\\', '"']
  | 0x24 => ['$', '$']
  | c => [Char.ofNat c.toNat]

/-- The literal made of `text`, if there is any text. -/
def Symbol.ofText (text : List Char) : List Symbol :=
  if text.isEmpty then [] else [.literal (String.ofList text)]

/-- What a sequence of tokens stands for: the text of the characters before its first symbol, and
the symbols from there on. -/
def Symbol.runs : List Token → List Char × List Symbol
  | [] => ([], [])
  | .char c :: ts =>
    let (text, symbols) := Symbol.runs ts
    (escaped c ++ text, symbols)
  | .symbol s :: ts =>
    let (text, symbols) := Symbol.runs ts
    ([], s :: (Symbol.ofText text ++ symbols))

/-- The symbols that a sequence of tokens stands for: each maximal run of characters is one
literal. -/
def Symbol.ofTokens (ts : List Token) : List Symbol :=
  let (text, symbols) := Symbol.runs ts
  Symbol.ofText text ++ symbols

/-- The symbols of the string in the first `room` bytes of `data`, and how many bytes it takes. -/
def symbolsOf (codes : CodeSet) (room : Nat) (data : Bytes) :
    Except Fault (List Symbol × Nat) := do
  let (ts, n) ← tokens codes room data
  .ok (Symbol.ofTokens ts, n)

/-- How many bytes the string at `offset` may take. Both ends are signed positions: the room behind
a negative offset is what lies between it and the position 1024 further on. -/
def stringRoom (block : Bytes) (offset : Int) : Nat :=
  Signed.place block (offset + maxStringLength) - Signed.place block offset

/-- The symbols of the string at `offset` of a block, coded as `version` says, and how many bytes it
takes. -/
def symbolize (block : Bytes) (offset : Int) (version : VersionTag) :
    Except Fault (List Symbol × Nat) :=
  match CodeSet.ofVersion? version with
  | some codes => symbolsOf codes (stringRoom block offset) (Signed.suffix block offset)
  | none => .error (.unknownVersion version)

/-- The text of the string at `offset` of a block, and how many bytes it takes. -/
def decodeString (block : Bytes) (offset : Int) (version : VersionTag) :
    Except Fault (String × Nat) := do
  let (symbols, n) ← symbolize block offset version
  .ok (Symbol.textOf symbols, n)

end Nsis
