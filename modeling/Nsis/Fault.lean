import Nsis.Datum
import Nsis.Formula.Malformed
import Nsis.Formula.Operation
import Nsis.Misuse
import Nsis.Version

/-!
# Faults

Why an operation on an installer fails.

## Main definitions

* `Nsis.Fault` — the causes of failure.
* `Nsis.Fault.message` — the wording of each.
-/

namespace Nsis

/-- What was wanted of a segment that does not exist. -/
inductive SegmentUse where
  | start
  | membership
  deriving DecidableEq, Repr

/-- The causes of failure. -/
inductive Fault where
  /-- No first header in the file. -/
  | headerNotFound
  /-- A version that names no string coding. -/
  | unknownVersion (tag : VersionTag)
  /-- An operand format letter without a meaning. -/
  | unknownFormat (letter : Char)
  /-- A record of `needed` bytes in a buffer of only `given`. -/
  | shortRecord (needed given : Nat)
  /-- A position outside a byte string. -/
  | byteRange
  /-- A position outside a list. -/
  | itemRange
  /-- A position outside a text. -/
  | charRange
  /-- A position of an item that does not fit into 64 bits. -/
  | hugeIndex
  /-- A number of items that does not fit into 64 bits. -/
  | hugeCount
  /-- A file position that does not fit into 64 bits. -/
  | hugePosition
  /-- More than there is memory for. -/
  | noMemory
  /-- A number with more digits than can be counted. -/
  | hugeNumber
  /-- A key that a record does not have. -/
  | noKey (shown : String)
  /-- A text that is no formula. -/
  | badFormula (cause : Malformed)
  /-- An operation that cannot have a zero there. -/
  | zeroDivisor (operation : Operation)
  /-- The division of a fraction by zero. -/
  | zeroFraction (operation : Operation)
  /-- A shift by a negative number of bits. -/
  | negativeShift
  /-- A kind of data without an operation on it. -/
  | noUnary (operation : Operation.Unary) (given : Datum.Kind)
  /-- Data that are used in a way that they cannot be. -/
  | misuse (cause : Misuse)
  /-- A name without a meaning. -/
  | unknownName (name : String)
  /-- Something else where a name is needed. -/
  | notName
  /-- Data of a kind that cannot be appended to a text. -/
  | notText (given : Datum.Kind)
  /-- Data of a kind that cannot be appended to a list. -/
  | notList (given : Datum.Kind)
  /-- Data of a kind that has no number of items. -/
  | noLength (given : Datum.Kind)
  /-- Data of a kind that is no number of repetitions. -/
  | notCount (given : Datum.Kind)
  /-- Data of a kind that does not stand for a number. -/
  | notNumber (given : Datum.Kind)
  /-- Data of a kind that cannot be shown as a hexadecimal number. -/
  | noNumeral (given : Datum.Kind)
  /-- Two kinds of data without an operation between them. -/
  | noOperation (operation : Operation) (left right : Datum.Kind)
  /-- A kind of data without an absolute value. -/
  | noAbsolute (given : Datum.Kind)
  /-- Two kinds of data without a quotient and remainder. -/
  | noDivMod (left right : Datum.Kind)
  /-- Two kinds of data without an order between them. -/
  | noOrder (relation : Relation) (left right : Datum.Kind)
  /-- A file name that is missing. -/
  | noPath
  /-- Data of a kind that has no items. -/
  | notGroup (given : Datum.Kind)
  /-- Data of a kind that has no strings to look up. -/
  | noStrings (given : Datum.Kind)
  /-- A segment that does not exist. -/
  | noSegment (use : SegmentUse)
  /-- A file position before the start of the file. -/
  | negativePosition (position : Int)
  /-- A deflate stream that is invalid or ends early. -/
  | badDeflate
  /-- An LZMA stream that is invalid or ends early. -/
  | badLzma
  deriving DecidableEq, Repr

namespace Fault

/-- The wording of a fault. Faults of the two general decompressors have none. -/
def message : Fault → String
  | headerNotFound => ""
  | unknownVersion tag => "Unknown NSIS version: " ++ tag.shown
  | unknownFormat letter => "Unknown format flag: " ++ String.ofList [letter]
  | shortRecord needed given =>
    "unpack_from requires a buffer of at least " ++ Text.decimal needed ++ " bytes for unpacking "
      ++ Text.decimal needed ++ " bytes at offset 0 (actual buffer size is " ++ Text.decimal given
      ++ ")"
  | byteRange => "index out of range"
  | itemRange => "list index out of range"
  | charRange => "string index out of range"
  | hugeIndex | hugeCount => "cannot fit 'int' into an index-sized integer"
  | hugePosition => "Python int too large to convert to C ssize_t"
  | noMemory => ""
  | hugeNumber => "too many digits in integer"
  | noKey shown => shown
  | badFormula cause => cause.message
  | zeroDivisor .power => "0.0 cannot be raised to a negative power"
  | zeroDivisor .quotient => "integer division or modulo by zero"
  | zeroDivisor .remainder => "integer modulo by zero"
  | zeroDivisor _ => "division by zero"
  | zeroFraction .quotient => "float floor division by zero"
  | zeroFraction .remainder => "float modulo"
  | zeroFraction _ => "float division by zero"
  | negativeShift => "negative shift count"
  | noUnary operation given =>
    "bad operand type for unary " ++ operation.sign ++ ": '" ++ given.name ++ "'"
  | misuse cause => cause.message
  | unknownName name => "name '" ++ name ++ "' is not defined"
  | notName => "eval() arg 1 must be a string, bytes or code object"
  | notText given => "can only concatenate str (not \"" ++ given.name ++ "\") to str"
  | notList given => "can only concatenate list (not \"" ++ given.name ++ "\") to list"
  | noLength given => "object of type '" ++ given.name ++ "' has no len()"
  | notCount given => "can't multiply sequence by non-int of type '" ++ given.name ++ "'"
  | notNumber given => "'" ++ given.name ++ "' object cannot be interpreted as an integer"
  | noNumeral .text => "Unknown format code 'x' for object of type 'str'"
  | noNumeral .fraction => "Unknown format code 'x' for object of type 'float'"
  | noNumeral given => "unsupported format string passed to " ++ given.name ++ ".__format__"
  | noOperation operation left right =>
    "unsupported operand type(s) for " ++ operation.title ++ ": '" ++ left.name ++ "' and '"
      ++ right.name ++ "'"
  | noAbsolute given => "bad operand type for abs(): '" ++ given.name ++ "'"
  | noDivMod left right =>
    "unsupported operand type(s) for divmod(): '" ++ left.name ++ "' and '" ++ right.name ++ "'"
  | noOrder relation left right =>
    "'" ++ relation.sign ++ "' not supported between instances of '" ++ left.name ++ "' and '"
      ++ right.name ++ "'"
  | noPath => "expected str, bytes or os.PathLike object, not NoneType"
  | notGroup given => "'" ++ given.name ++ "' object is not iterable"
  | noStrings given => "'" ++ given.name ++ "' object has no attribute 'get_string'"
  | noSegment .start => "'NoneType' object has no attribute 'startEA'"
  | noSegment .membership => "'NoneType' object has no attribute 'contains'"
  | negativePosition position => "negative seek value " ++ Text.decimal position
  | badDeflate => ""
  | badLzma => ""

/-- Two operations one after the other succeed if each of them does. -/
theorem bind_eq_ok {α β : Type} {x : Except Fault α} {f : α → Except Fault β} {b : β} :
    (x >>= f) = .ok b ↔ ∃ a, x = .ok a ∧ f a = .ok b := by
  cases x with
  | error e => simp [bind, Except.bind]
  | ok a => simp [bind, Except.bind]

/-- A result that was changed comes of one that was there. -/
theorem map_eq_ok {α β : Type} {x : Except Fault α} {f : α → β} {b : β} :
    x.map f = .ok b ↔ ∃ a, x = .ok a ∧ f a = b := by
  cases x with
  | error e => simp [Except.map]
  | ok a => simp [Except.map]

/-- An operation of whose result something is seen has succeeded. -/
theorem exists_of_toOption_map {α β : Type} {x : Except Fault α} {f : α → β} {b : β}
    (h : x.toOption.map f = some b) : ∃ a, x = .ok a ∧ f a = b := by
  cases x with
  | error e => cases h
  | ok a => exact ⟨a, rfl, Option.some.inj h⟩

end Fault

end Nsis
