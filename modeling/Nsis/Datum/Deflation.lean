import Nsis.Datum.Change
import Nsis.Deflate.Envelope

/-!
# Functions for deflated data

Checksums of byte strings, deflated byte strings, and things that deflate or inflate what they are
given bit by bit.

## Main definitions

* `Nsis.Datum.inflated`, `Nsis.Datum.deflated` — byte strings in their envelopes.
* `Nsis.Datum.callDeflation?` — the value of a function for deflated data.
* `Nsis.Datum.changeDeflation?` — what a function of a thing that deflates or inflates gives.
-/

namespace Nsis.Datum

open Deflate (Envelope)

/-- The number of bits for the window of deflated data, if none is given. -/
def usualWindow : Int := 15

/-- A number that a word of four bytes has. -/
def wordNumber (usual : Int) (d : Option Datum) : Except Fault Int := do
  let n ← d.elim (pure usual) wholeOf
  if n < -0x80000000 || 0x80000000 ≤ n then throw (.misuse (.numeric .hugeWord))
  return n

/-- The contents of deflated data in the envelope that a number asks for. -/
def inflated (b : Bytes) (window : Int) : Except Fault Datum :=
  match (Envelope.forReading? window).bind fun (e, bits) => e.opened? bits b with
  | some (out, _) => .ok (bytes out)
  | none => .error .badDeflate

/-- The level and the window that numbers ask for, with the envelope. -/
def deflationOf (level window : Int) : Except Fault (Nat × Envelope × Nat) :=
  match Envelope.forWriting? window with
  | some (e, bits) =>
    if level < -1 || 9 < level then .error .badDeflate
    else .ok (if level = -1 then 6 else level.toNat, e, bits)
  | none => .error .badDeflate

/-- A byte string deflated in the envelope that a number asks for. -/
def deflated (b : Bytes) (level window : Int) : Except Fault Bytes := do
  let (level, e, bits) ← deflationOf level window
  return e.sealed level bits b

/-! ### Things that deflate or inflate -/

/-- The kind of things that deflate. -/
def deflaterKind : String := "zlib.Compress"

/-- The kind of things that inflate. -/
def inflaterKind : String := "zlib.Decompress"

/-- A thing that deflates what it has been given. It writes the head of its envelope first. -/
def deflater (level window : Int) (given : Bytes) (isBegun isEnded : Bool) : Datum :=
  thing deflaterKind "" [
    ("level", number level), ("window", number window), ("given", bytes given),
    ("isBegun", truth isBegun), ("isEnded", truth isEnded)]

/-- A thing that inflates what it has been given, and has given away some of it. -/
def inflater (window : Int) (given : Bytes) (done : Nat) (eof : Bool) (unused : Bytes) : Datum :=
  thing inflaterKind "" [
    ("window", number window), ("given", bytes given), ("done", number done), ("eof", truth eof),
    ("unused_data", bytes unused), ("unconsumed_tail", bytes [])]

/-- What a function of a thing that deflates gives. -/
def changeDeflater? (parts : List (String × Datum)) (name : String) (args : List Datum) :
    Option (Except Fault Change) :=
  let whole := fun (s : String) => ((parts.lookup s).bind number?).getD 0
  let isTrue := fun (s : String) => ((parts.lookup s).map holds).getD false
  let given := ((parts.lookup "given").bind bytes?).getD []
  let (level, window, isBegun) := (whole "level", whole "window", isTrue "isBegun")
  let head := do
    let (level, e, bits) ← deflationOf level window
    return if isBegun then [] else e.head level bits
  match name, args with
  | "compress", [d] => some do
    let b ← bytesArgument d
    if isTrue "isEnded" then throw .badDeflate
    return { value := bytes (← head), data := deflater level window (given ++ b) true false }
  | "flush", args => some do
    let mode ← (args.head?.map wholeOf).getD (.ok 4)
    if isTrue "isEnded" then throw .badDeflate
    if mode ≠ 4 then
      return { value := bytes (← head), data := deflater level window given true false }
    let (n, e, bits) ← deflationOf level window
    let out := e.sealed n bits given
    let out := if isBegun then out.drop (e.head n bits).length else out
    return { value := bytes out, data := deflater level window given true true }
  | "copy", [] =>
    let same := deflater level window given isBegun (isTrue "isEnded")
    some (.ok { value := same, data := same })
  | _, _ => none

/-- What a function of a thing that inflates gives. -/
def changeInflater? (parts : List (String × Datum)) (name : String) (args : List Datum) :
    Option (Except Fault Change) :=
  let whole := fun (s : String) => ((parts.lookup s).bind number?).getD 0
  let bytesOf := fun (s : String) => ((parts.lookup s).bind bytes?).getD []
  let isEnded := ((parts.lookup "eof").map holds).getD false
  let (window, given, done) := (whole "window", bytesOf "given", (whole "done").toNat)
  let more := fun (b : Bytes) (limit : Option Nat) =>
    let all := given ++ b
    match (Envelope.forReading? window).bind fun (e, bits) => e.opened? bits all with
    | some (out, rest) =>
      let new := (out.drop done).take (limit.getD out.length)
      let isLast := done + new.length = out.length
      ({ value := bytes new
         data :=
          inflater window all (done + new.length) isLast (if isLast then rest else []) } : Change)
    | none => { value := bytes [], data := inflater window all done false [] }
  match name, args with
  | "decompress", d :: rest => some do
    let b ← bytesArgument d
    let limit ← (rest.head?.map wholeOf).getD (.ok 0)
    if isEnded then
      return {
        value := bytes []
        data := inflater window given done true (bytesOf "unused_data" ++ b) }
    return more b (if limit = 0 then none else some limit.toNat)
  | "flush", _ => some (.ok (more [] none))
  | "copy", [] =>
    let same := inflater window given done isEnded (bytesOf "unused_data")
    some (.ok { value := same, data := same })
  | _, _ => none

/-- What a function of a thing that deflates or inflates gives, and how it changes the thing. -/
def changeDeflation? (kind : String) (parts : List (String × Datum)) (name : String)
    (args : List Datum) : Option (Except Fault Change) :=
  if kind = deflaterKind then changeDeflater? parts name args
  else if kind = inflaterKind then changeInflater? parts name args
  else none

/-! ### Functions -/

/-- The value of a function for deflated data. -/
def callDeflation? (name : String) (a : Arguments) : Option (Except Fault Datum) :=
  match name with
  | "crc32" | "adler32" => some do
    if !a.labelled.isEmpty then throw (.misuse (.noLabels ("zlib." ++ name)))
    match ← between name 1 2 a.plain with
    | d :: rest =>
      let b ← bytesArgument d
      let isCyclic := name = "crc32"
      let start := (← (rest.head?.map wholeOf).getD (.ok (if isCyclic then 0 else 1)))
      let start := (Int.emod start 0x100000000).toNat
      if isCyclic then return number (Checksum.cyclic start.toUInt32 b).toNat
      else return number (Checksum.sums start b)
    | [] => return absent
  | "decompress" => some do
    let args ← ordered name ["", "wbits", "bufsize"] 1 1 a
    let b ← bytesArgument ((args.headD none).getD absent)
    let window ← wordNumber usualWindow ((args.drop 1).headD none)
    let size ← ((args.drop 2).headD none).elim (pure 0) wholeOf
    if size < 0 then throw (.misuse (.numeric .negativeBufferSize))
    inflated b window
  | "compress" => some do
    let args ← ordered name ["", "level", "wbits"] 1 1 a
    let b ← bytesArgument ((args.headD none).getD absent)
    let level ← wordNumber (-1) ((args.drop 1).headD none)
    bytes <$> deflated b level (← wordNumber usualWindow ((args.drop 2).headD none))
  | "compressobj" => some do
    let labels := ["level", "method", "wbits", "memLevel", "strategy", "zdict"]
    let args ← ordered name labels 0 0 a
    let level ← wordNumber (-1) (args.headD none)
    let window ← wordNumber usualWindow ((args.drop 2).headD none)
    match deflationOf level window with
    | .ok _ => return deflater level window [] false false
    | .error _ => throw (.misuse (.numeric .badDeflation))
  | "decompressobj" => some do
    let args ← ordered name ["wbits", "zdict"] 0 0 a
    let window ← wordNumber usualWindow (args.headD none)
    if (Envelope.forReading? window).isNone then throw (.misuse (.numeric .badDeflation))
    return inflater window [] 0 false []
  | _ => none

end Nsis.Datum
