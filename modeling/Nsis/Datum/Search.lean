import Nsis.Datum.Arity

/-!
# Searches

A text or a byte string is searched for a piece, cut at pieces, or has its pieces replaced.

## Main definitions

* `Nsis.Datum.indexOf?`, `Nsis.Datum.lastIndexOf?` — where a piece begins.
* `Nsis.Datum.replacePiece` — a list with its pieces replaced.
* `Nsis.Datum.splitAtPiece`, `Nsis.Datum.splitAtLast` — the parts of a list between its pieces.
* `Nsis.Datum.searchText`, `Nsis.Datum.searchBytes` — what the functions that search give.
-/

namespace Nsis.Datum

/-! ### Pieces of sequences -/

/-- Where a piece of a list begins first. -/
def indexOf? {α : Type} [BEq α] (piece : List α) : List α → Option Nat
  | [] => if piece.isEmpty then some 0 else none
  | x :: xs => if piece.isPrefixOf (x :: xs) then some 0 else (indexOf? piece xs).map (· + 1)

/-- How often a list has a piece, without overlaps. -/
def occurrences {α : Type} [BEq α] (piece : List α) : (fuel : Nat) → List α → Nat
  | 0, _ | _, [] => 0
  | fuel + 1, x :: xs =>
    if piece.isPrefixOf (x :: xs) then occurrences piece fuel ((x :: xs).drop piece.length) + 1
    else occurrences piece fuel xs

/-- How often a list has a piece; an empty one is also between any two items. -/
def countPiece {α : Type} [BEq α] (piece xs : List α) : Nat :=
  if piece.isEmpty then xs.length + 1 else occurrences piece xs.length xs

/-- Where a piece of a list begins last. -/
def lastIndexOf? {α : Type} [BEq α] (piece xs : List α) : Option Nat :=
  (indexOf? piece.reverse xs.reverse).map fun i => xs.length - i - piece.length

/-- A list with its first pieces replaced, at most as many as `limit` says. An empty piece is before
each item and at the end. -/
def replacePiece {α : Type} [BEq α] (piece new : List α) :
    (fuel : Nat) → (limit : Nat) → List α → List α
  | 0, _, xs | _, 0, xs => xs
  | _, _ + 1, [] => if piece.isEmpty then new else []
  | fuel + 1, limit + 1, x :: xs =>
    if piece.isEmpty then new ++ x :: replacePiece piece new fuel limit xs
    else if piece.isPrefixOf (x :: xs) then
      new ++ replacePiece piece new fuel limit ((x :: xs).drop piece.length)
    else x :: replacePiece piece new fuel (limit + 1) xs

/-- The parts of a list between its first pieces, at most as many as `limit` says. -/
def splitAtPiece {α : Type} [BEq α] (piece : List α) : (limit : Nat) → List α → List (List α)
  | 0, xs => [xs]
  | limit + 1, xs =>
    match indexOf? piece xs with
    | some i => xs.take i :: splitAtPiece piece limit (xs.drop (i + piece.length))
    | none => [xs]

/-- The parts of a list between its last pieces, at most as many as `limit` says. -/
def splitAtLast {α : Type} [BEq α] (piece : List α) (limit : Nat) (xs : List α) : List (List α) :=
  ((splitAtPiece piece.reverse limit xs.reverse).map List.reverse).reverse

/-- The parts of a list between items that are blank, at most one more than `limit` says. -/
def blankParts {α : Type} (isBlank : α → Bool) : (limit : Nat) → List α → List (List α)
  | 0, xs =>
    let xs := xs.dropWhile isBlank
    if xs.isEmpty then [] else [xs]
  | limit + 1, xs =>
    let xs := xs.dropWhile isBlank
    if xs.isEmpty then []
    else
      let part := xs.takeWhile (!isBlank ·)
      part :: blankParts isBlank limit (xs.drop part.length)

/-- The parts of a list between the last items that are blank. -/
def lastBlankParts {α : Type} (isBlank : α → Bool) (limit : Nat) (xs : List α) : List (List α) :=
  ((blankParts isBlank limit xs.reverse).map List.reverse).reverse

/-- The lines of a list, with or without what ends them. Two items that end a line may belong
together. -/
def lines {α : Type} [DecidableEq α] (isEnd : α → Bool) (first second : α) (keep : Bool) :
    (fuel : Nat) → List α → List (List α)
  | 0, _ | _, [] => []
  | fuel + 1, xs =>
    let line := xs.takeWhile (!isEnd ·)
    match xs.drop line.length with
    | [] => [line]
    | x :: rest =>
      let ending := if x = first && rest.head? = some second then [x, second] else [x]
      (if keep then line ++ ending else line)
        :: lines isEnd first second keep fuel (xs.drop (line.length + ending.length))

/-! ### Searches -/

/-- The part of a list that a search looks at, and where it begins; nothing if it would end before
it begins. -/
def searchedPart {α : Type} (xs : List α) (bounds : List Datum) :
    Except Fault (Option (List α × Nat)) := do
  let n : Int := xs.length
  let start ← bound (bounds.headD absent)
  let stop ← bound ((bounds.drop 1).headD absent)
  let first := max 0 (let i := start.getD 0; if i < 0 then i + n else i)
  let last := (stop.map (clamped n 0 n)).getD n
  if last < first then return none
  return some ((xs.take last.toNat).drop first.toNat, first.toNat)

/-- What a search for a piece gives. -/
def searched {α : Type} [BEq α] (binary : Bool) (name : String) (piece xs : List α)
    (bounds : List Datum) : Except Fault Datum := do
  let part ← searchedPart xs bounds
  let at? := fun (find : List α → Option Nat) =>
    part.bind fun (ys, start) => (find ys).map (· + start)
  let needed := fun (i : Option Nat) => match i with
    | some i => Except.ok (number i)
    | none => .error (.misuse (.noSubtext binary))
  let found := fun (i : Option Nat) => number ((i.map Int.ofNat).getD (-1))
  let ys := part.map (·.1)
  match name with
  | "find" => return found (at? (indexOf? piece))
  | "rfind" => return found (at? (lastIndexOf? piece))
  | "index" => needed (at? (indexOf? piece))
  | "rindex" => needed (at? (lastIndexOf? piece))
  | "count" => return number ((ys.map (countPiece piece)).getD 0)
  | "startswith" => return truth (ys.any (piece.isPrefixOf ·))
  | _ => return truth (ys.any (piece.isSuffixOf ·))

/-- Whether a search only looks at the beginning or the end. -/
def looksAtEdge (name : String) : Bool :=
  name = "startswith" || name = "endswith"

/-- A search in a text. Its bounds are looked at before what is sought. -/
def searchText (name : String) (cs : List Char) (args : List Datum) : Except Fault Datum := do
  let _ ← searchedPart cs (args.drop 1)
  match args with
  | text t :: bounds => searched false name t.toList cs bounds
  | d :: bounds =>
    match looksAtEdge name, d.tupleItems? with
    | true, some items =>
      let answers ← items.mapM fun
        | text t => searched false name t.toList cs bounds
        | d => .error (.misuse (.notEdgeItem name false d.kind))
      return truth (answers.any holds)
    | true, none => throw (.misuse (.notEdge name false d.kind))
    | false, _ => throw (.misuse (.notSought d.kind))
  | [] => return absent

/-- A search in a byte string. Its bounds are looked at before what is sought. -/
def searchBytes (name : String) (b : Bytes) (args : List Datum) : Except Fault Datum := do
  let _ ← searchedPart b (args.drop 1)
  match args with
  | d :: bounds =>
    match d.bytes?, looksAtEdge name, d.tupleItems?, d.number? with
    | some c, _, _, _ => searched true name c b bounds
    | none, true, some items, _ =>
      let answers ← items.mapM fun d => match d.bytes? with
        | some c => searched true name c b bounds
        | none => .error (.misuse (.notEdgeItem name true d.kind))
      return truth (answers.any holds)
    | none, true, none, _ => throw (.misuse (.notEdge name true d.kind))
    | none, false, _, some n =>
      if n < 0 || 256 ≤ n then throw (.misuse .byteValue)
      searched true name [UInt8.ofNat n.toNat] b bounds
    | none, false, _, none => throw (.misuse (.notSoughtBytes d.kind))
  | [] => return absent

end Nsis.Datum
