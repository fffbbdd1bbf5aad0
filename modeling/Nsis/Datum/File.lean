import Nsis.Datum.Change

/-!
# Files in memory

A byte string can be read like a file: from a position on, which moves behind what was read.

## Main definitions

* `Nsis.Datum.file` — a byte string as a file.
* `Nsis.Datum.changeFile?` — what a function of a file gives, and how it moves and changes the file.
-/

namespace Nsis.Datum

/-- The kind of files in memory. -/
def fileKind : String := "_io.BytesIO"

/-- A byte string as a file at a position. -/
def file (b : Bytes) (position : Nat) (isClosed : Bool) : Datum :=
  thing fileKind "" [
    ("data", bytes b), ("position", number position), ("closed", truth isClosed)]

/-- How many bytes are read at most, if an argument limits them. -/
def readLimit (args : List Datum) : Except Fault (Option Nat) :=
  match args with
  | [] | absent :: _ => .ok none
  | d :: _ =>
    match d.number? with
    | some n => .ok (if n < 0 then none else some n.toNat)
    | none => .error (.misuse (.notReadSize d.kind))

/-- The position that a file is moved to. -/
def soughtPosition (size position : Nat) (args : List Datum) : Except Fault Nat := do
  match ← args.mapM wholeOf with
  | [n] | [n, 0] => if n < 0 then throw (.negativePosition n) else return n.toNat
  | [n, 1] => return (position + n).toNat
  | [n, 2] => return (size + n).toNat
  | _ :: k :: _ => throw (.misuse (.badOrigin k))
  | [] => return position

/-- The bytes up to the end of a line. -/
def firstLine (b : Bytes) : Bytes :=
  let line := b.takeWhile (· ≠ 10)
  line ++ (b.drop line.length).take 1

/-- What a function of a file gives, and how it moves and changes the file. -/
def changeFile? (parts : List (String × Datum)) (name : String) (args : List Datum) :
    Option (Except Fault Change) :=
  let data := ((parts.lookup "data").bind bytes?).getD []
  let position := (((parts.lookup "position").bind number?).getD 0).toNat
  let isClosed := ((parts.lookup "closed").map holds).getD false
  let at' := fun (value : Datum) (p : Nat) =>
    (.ok { value, data := file data p isClosed } : Except Fault Change)
  let rest := data.drop position
  let opened := fun (r : Except Fault Change) =>
    some (if isClosed then .error (.misuse .closedFile) else r)
  match name with
  | "read" | "read1" => opened do
    let b := match ← readLimit args with
      | some n => rest.take n
      | none => rest
    at' (bytes b) (position + b.length)
  | "readline" => opened do
    let line := firstLine rest
    let b := match ← readLimit args with
      | some n => line.take n
      | none => line
    at' (bytes b) (position + b.length)
  | "readlines" =>
    let isEnd := fun (c : UInt8) => c = 10
    let all := lines isEnd 13 10 true rest.length rest
    opened (at' (list (all.map bytes)) (max position data.length))
  | "seek" => opened do
    let p ← soughtPosition data.length position args
    at' (number p) p
  | "tell" => opened (at' (number position) position)
  | "getvalue" => opened (at' (bytes data) position)
  | "getbuffer" => opened (at' (buffer true data) position)
  | "write" => opened do
    let b ← bytesArgument (args.headD absent)
    let gap := List.replicate (position - data.length) 0
    let new := data.take position ++ gap ++ b ++ data.drop (position + b.length)
    return { value := number b.length, data := file new (position + b.length) false }
  | "truncate" => opened do
    let n := (← readLimit args).getD position
    return { value := number n, data := file (data.take n) position false }
  | "readable" | "writable" | "seekable" => opened (at' (truth true) position)
  | "close" => some (.ok { value := absent, data := file data position true })
  | _ => none

end Nsis.Datum
