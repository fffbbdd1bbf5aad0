import Nsis.Misuse.Count
import Nsis.Misuse.Encoding
import Nsis.Misuse.Format
import Nsis.Misuse.Number
import Nsis.Misuse.Packing
import Nsis.Misuse.Place

/-!
# Misuse of data

Why data cannot be used in the way that a formula asks for.

## Main definitions

* `Nsis.Misuse` — the causes.
* `Nsis.Misuse.family` — the family that a cause belongs to.
* `Nsis.Misuse.message` — the wording of each.
-/

namespace Nsis

open Datum (Kind)

/-- Why data cannot be used in the way that a formula asks for. -/
inductive Misuse where
  /-- A call of what is no function. -/
  | notCallable (k : Kind)
  /-- A wrong number of arguments. -/
  | count (function : String) (c : Misuse.Count)
  /-- Named arguments for a function that has none. -/
  | noLabels (function : String)
  /-- A named argument that a function does not have. -/
  | badLabel (function label : String)
  /-- Arguments with names that are no texts. -/
  | strangeLabels
  /-- A named argument that a function of a formula does not have. -/
  | unknownLabel (function label : String)
  /-- Arguments with the names of parameters that a call cannot name. -/
  | unnameable (function : String) (labels : List String)
  /-- A star in front of what has no items. -/
  | notSpread (function : String) (k : Kind)
  /-- Two stars in front of what is no record. -/
  | notSpreadRecord (function : String) (k : Kind)
  /-- A star in a group in front of what has no items. -/
  | notSpreadItems (k : Kind)
  /-- Two stars in a record in front of what is no record. -/
  | notSpreadEntries (k : Kind)
  /-- A mark between or behind what is printed that is no text. -/
  | notMark (label : String) (k : Kind)
  /-- An argument that is given twice. -/
  | repeatedLabel (function label : String)
  /-- A named argument that is given twice. -/
  | repeatedKeyword (function label : String)
  /-- An argument by its name and at its place. -/
  | doubleArgument (function label : String) (place : Nat)
  /-- An item of what has none. -/
  | noItems (k : Kind)
  /-- An item of a type. -/
  | noTypeItems (name : String)
  /-- The items of a type that is told already of which items it is. -/
  | notGeneric (name : String)
  /-- A position that is no number. -/
  | badPosition (group given : Kind)
  /-- A bound of a slice that is no number. -/
  | badBound
  /-- A step of zero. -/
  | zeroStep
  /-- A range in steps of zero. -/
  | zeroRangeStep
  /-- A position outside a tuple. -/
  | tupleRange
  /-- A position outside a range. -/
  | numberRange
  /-- A position outside bytes that can be changed. -/
  | bufferRange
  /-- A position outside a view of bytes. -/
  | viewRange
  /-- A position in a view of bytes that is no number. -/
  | badViewPosition
  /-- The last item of an empty list. -/
  | emptyList
  /-- Data that are no key and no item of a set. -/
  | unhashable (k : Kind)
  /-- Membership in what has no items. -/
  | notContainer (k : Kind)
  /-- Membership of something else than a text in a text. -/
  | notSubtext (k : Kind)
  /-- Something else than bytes. -/
  | notBytesLike (k : Kind)
  /-- A number that is no byte. -/
  | byteValue
  /-- Numbers that are no bytes. -/
  | byteValues
  /-- Something that cannot be appended to bytes of a kind. -/
  | notBytes (group k : Kind)
  /-- Something that cannot be appended to a tuple. -/
  | notTuple (k : Kind)
  /-- Formats and fields. -/
  | format (flaw : Misuse.FormatFlaw)
  /-- A part that data do not have. -/
  | noPart (k : Kind) (name : String)
  /-- A part that a module does not have. -/
  | noModulePart (module name : String)
  /-- A part that a type does not have. -/
  | noTypePart (type name : String)
  /-- A function of a type for data of another kind. -/
  | foreignOwner (type name : String) (k : Kind)
  | emptyGroup (function : String)
  /-- A default for the smallest or largest of several arguments. -/
  | uselessDefault (function : String)
  /-- Numbers. -/
  | numeric (flaw : Misuse.NumberFlaw)
  /-- The number of what is no character. -/
  | notChar (k : Kind)
  /-- The number of a text of another length than one. -/
  | notOneChar (length : Nat)
  /-- A sum that begins with a text, a byte string or a buffer. -/
  | sumOfTexts (k : Kind)
  | notReversible (k : Kind)
  | notIterator (k : Kind)
  /-- Something that is given as what gives items one after the other. -/
  | notIterators (k : Kind)
  | exhausted
  | notJoinable
  | notJoined (index : Nat) (k : Kind)
  | noSubtext (binary : Bool)
  | notInList (shown : String)
  | notInTuple
  | negativeCount
  | notConvertible (k : Kind)
  /-- Encodings. -/
  | encoding (flaw : Misuse.EncodingFlaw)
  | notType (isItemised : Bool)
  | notPair (index : Nat)
  | notUnpackable (k : Kind)
  | tooFew (wanted given : Nat)
  | tooMany (wanted : Nat)
  /-- Too few items where some may be left over. -/
  | tooFewAtLeast (wanted given : Nat)
  /-- A negative number of items that a slice goes through. -/
  | negativeLengthGiven
  /-- Something else than a text where only a text can be. -/
  | badKind
  | fewSources
  | typeArguments
  /-- Packed data. -/
  | packing (flaw : Misuse.PackFlaw)
  /-- A place for an argument that is not there. -/
  | placeIndex (index : Nat)
  /-- A text with places that cannot be filled. -/
  | textPlace (flaw : Misuse.PlaceFlaw)
  /-- An argument of a function that has to be of another kind. -/
  | argumentKind (function : String) (place : Option Nat) (label wanted : String) (k : Kind)
  /-- Something else than a text that is looked for. -/
  | notSought (k : Kind)
  /-- Something else than a beginning or an end. -/
  | notEdge (function : String) (binary : Bool) (k : Kind)
  /-- A beginning or an end among several that is none. -/
  | notEdgeItem (function : String) (binary : Bool) (k : Kind)
  /-- Something else than the characters to take away. -/
  | notStripped (function : String)
  /-- Something else than a text between parts. -/
  | notSeparator (k : Kind)
  | emptySeparator
  /-- Something else than a byte or a byte string that is looked for. -/
  | notSoughtBytes (k : Kind)
  | notJoinedBytes (index : Nat) (k : Kind)
  | fillWidth
  /-- Something else than the character that fills a text up. -/
  | fillKind (k : Kind)
  /-- Something else than a record as a table of characters. -/
  | tableRecord
  /-- Something else than a text as the characters of a table. -/
  | tableFirst
  /-- Characters and those that replace them that are not equally many. -/
  | tableLengths (binary : Bool)
  | tableKeyLength
  | tableKeyKind
  /-- Something else than characters in a table. -/
  | tableValue
  /-- A number in a table that no character has. -/
  | tableRange
  /-- A table of another number of bytes than there are. -/
  | tableSize
  /-- A mark between groups of digits that is not a single character. -/
  | markLength
  | markKind
  | markRange
  | notInListRemove
  | popRange
  /-- A position outside a list to which an item is given. -/
  | assignmentRange
  /-- Another number of items than a slice in steps has. -/
  | sliceLength (given wanted : Nat)
  /-- Something else than items for a slice. -/
  | sliceItems
  /-- The last byte of an empty buffer. -/
  | emptyBuffer
  /-- A byte that a buffer does not have. -/
  | notInBuffer
  | noPositional (function : String)
  | nonHex (position : Nat)
  /-- A function that is called again for each item and is none. -/
  | notCallableSource
  | notAttributeName (k : Kind)
  /-- A pair of another length than two. -/
  | pairLength (index given : Nat)
  /-- A number that is not in a range. -/
  | notInRange (shown : String)
  /-- Something that has no record of its parts. -/
  | noParts
  /-- Something that cannot be turned into bytes that can change. -/
  | notConvertibleTo (type : String) (k : Kind)
  /-- A view of what has no bytes. -/
  | noView (k : Kind)
  /-- A type of which nothing can be made. -/
  | noInstances (type : String)
  /-- Arguments for the only datum of a type. -/
  | noArgumentsOf (type : String)
  /-- Something else than types to which another one may belong. -/
  | notClasses (isItemised : Bool)
  | notClass
  | noModule (k : Kind)
  | unboundOperation (owner name : String)
  | foreignOperand (owner name : String) (k : Kind)
  | unboundMethod (owner name : String)
  /-- A missing argument of a type. -/
  | missingLabel (type label : String)
  /-- Something else than sentences. -/
  | notStatement
  | badMode
  | notRaisable
  | noItemChange (k : Kind)
  | noItemRemoval (k : Kind)
  /-- An operation that cannot change its first operand. -/
  | noChange (o : Operation) (k l : Kind)
  /-- A wrong number of arguments of a function that has no name. -/
  | expected (wanted given : Nat)
  /-- Arguments for what takes none. -/
  | noArguments (name : String)
  /-- Something else than how many bytes are read. -/
  | notReadSize (k : Kind)
  /-- A number that is no place to count a position from. -/
  | badOrigin (n : Int)
  | closedFile
  /-- Something else than a fault that a formula asks for. -/
  | notFault (k : Kind)
  /-- The end of a stream that a formula asks for inside it. -/
  | lostEnd
  /-- New data of no type. -/
  | unboundNew (type : String)
  /-- A type that no other type can belong to. -/
  | finalType (name : String)
  /-- A value where new data are prepared. -/
  | preparedValue (k : Kind)
  /-- A part of a common type. -/
  | fixedType (type name : String)
  /-- A field of a tuple that would get another value. -/
  | fixedField
  /-- A field of a tuple that would be taken away. -/
  | keptField
  /-- A part that would get another value. -/
  | fixedPart (k : Kind) (name : String)
  /-- A function of data that would get another value. -/
  | fixedFunction (k : Kind) (name : String)
  /-- Another number of items than a tuple has fields. -/
  | fieldCount (wanted given : Nat)
  /-- Names that no field of a tuple has. -/
  | unknownFields (shown : String)
  | badTypeName (shown : String)
  | reservedTypeName (shown : String)
  | hiddenField (shown : String)
  | repeatedField (shown : String)
  /-- More defaults than fields. -/
  | manyDefaults
  /-- A number of items below zero. -/
  | negativeSize
  /-- Something else than a text from a function that has to give one. -/
  | notOwnText (function : String) (k : Kind)
  /-- A group of a kind that changes in size while it is gone through. -/
  | resized (k : Kind)
  /-- Groups side by side that are not equally many, with the number of the one that differs. -/
  | unequalSources (isLonger : Bool) (index : Nat)
  /-- A variable without a value, of the function that asks or of one around it. -/
  | unset (isOwn : Bool) (name : String)
  /-- A fault that a formula asks for, by the name of its family and its wording. -/
  | raised (family wording : String)
  /-- The types above one that is not given. -/
  | noSuper
  /-- Something else than a record as the names of a formula. -/
  | noNames
  /-- Something else than a record as the world of a formula. -/
  | noWorld (hasItems : Bool)
  | missingModule (name : String)
  /-- More calls inside one another than there is room for. -/
  | tooDeep (reading : Bool)
  deriving DecidableEq, Repr

namespace Misuse

/-- The family that a cause belongs to. -/
def family : Misuse → Family
  | zeroStep | zeroRangeStep | byteValue | byteValues | emptyGroup _
  | textPlace _ | emptySeparator | badOrigin _ | closedFile | unknownFields _
  | badTypeName _ | reservedTypeName _ | hiddenField _ | repeatedField _ | negativeSize
  | sliceLength _ _ | notInBuffer | tableLengths _ | tableKeyLength | tableRange
  | tableSize | markLength | markRange | notInListRemove | nonHex _ | pairLength _ _ | badMode
  | noSubtext _ | notInList _ | notInTuple | notInRange _ | negativeCount | tooFew _ _
  | tooMany _ | tooFewAtLeast _ _ | negativeLengthGiven | unequalSources _ _ => .value
  | tupleRange | numberRange | bufferRange | viewRange | emptyList | placeIndex _
  | popRange | assignmentRange | emptyBuffer => .position
  | noPart _ _ | noModulePart _ _ | noTypePart _ _ | fixedField | keptField
  | fixedPart _ _ | fixedFunction _ _ => .part
  | exhausted => .exhausted
  | tooDeep _ => .depth
  | resized _ | lostEnd | noSuper => .time
  | unset isOwn _ => .unset isOwn
  | raised family _ => .named family
  | missingModule _ => .module
  | packing flaw => flaw.family
  | encoding flaw => flaw.family
  | format flaw => flaw.family
  | numeric flaw => flaw.family
  | _ => .kind

/-- The wording of a misuse. -/
def message : Misuse → String
  | notCallable k => quote k.name ++ " object is not callable"
  | count f c => c.message f
  | noLabels f => f ++ "() takes no keyword arguments"
  | strangeLabels => "keywords must be strings"
  | badLabel f label => quote label ++ " is an invalid keyword argument for " ++ f ++ "()"
  | unnameable f labels =>
    f ++ "() got some positional-only arguments passed as keyword arguments: "
      ++ quote (String.intercalate ", " labels)
  | unknownLabel f label => f ++ "() got an unexpected keyword argument " ++ quote label
  | notSpread f k => f ++ " argument after * must be an iterable, not " ++ k.name
  | notSpreadRecord f k => f ++ " argument after ** must be a mapping, not " ++ k.name
  | notSpreadItems k => "Value after * must be an iterable, not " ++ k.name
  | notSpreadEntries k => quote k.name ++ " object is not a mapping"
  | notMark label k => label ++ " must be None or a string, not " ++ k.name
  | doubleArgument f label place =>
    "argument for " ++ f ++ "() given by name (" ++ quote label ++ ") and position ("
      ++ Text.decimal place ++ ")"
  | repeatedLabel f label => f ++ "() got multiple values for argument " ++ quote label
  | repeatedKeyword f label => f ++ " got multiple values for keyword argument " ++ quote label
  | noItems k => quote k.name ++ " object is not subscriptable"
  | noTypeItems name => "type " ++ quote name ++ " is not subscriptable"
  | notGeneric name => name ++ " is not a generic class"
  | badPosition .text given => "string indices must be integers, not " ++ quote given.name
  | badPosition .bytes given => "byte indices must be integers or slices, not " ++ given.name
  | badPosition group given =>
    group.name ++ " indices must be integers or slices, not " ++ given.name
  | badBound => "slice indices must be integers or None or have an __index__ method"
  | zeroStep => "slice step cannot be zero"
  | zeroRangeStep => "range() arg 3 must not be zero"
  | tupleRange => "tuple index out of range"
  | bufferRange => "bytearray index out of range"
  | viewRange => "index out of bounds on dimension 1"
  | badViewPosition => "memoryview: invalid slice key"
  | numberRange => "range object index out of range"
  | emptyList => "pop from empty list"
  | unhashable k => "unhashable type: " ++ quote k.name
  | notContainer k => "argument of type " ++ quote k.name ++ " is not iterable"
  | notSubtext k => "'in <string>' requires string as left operand, not " ++ k.name
  | notBytesLike k => "a bytes-like object is required, not " ++ quote k.name
  | byteValue => "byte must be in range(0, 256)"
  | byteValues => "bytes must be in range(0, 256)"
  | notBytes group k => "can't concat " ++ k.name ++ " to " ++ group.name
  | notTuple k => "can only concatenate tuple (not \"" ++ k.name ++ "\") to tuple"
  | noPart k name => quote k.name ++ " object has no attribute " ++ quote name
  | noModulePart module name => "module " ++ quote module ++ " has no attribute " ++ quote name
  | noTypePart type name => "type object " ++ quote type ++ " has no attribute " ++ quote name
  | foreignOwner type name k =>
    "descriptor " ++ quote name ++ " for " ++ quote type ++ " objects doesn't apply to a "
      ++ quote k.name ++ " object"
  | emptyGroup f => f ++ "() arg is an empty sequence"
  | uselessDefault f =>
    "Cannot specify a default for " ++ f ++ "() with multiple positional arguments"
  | notChar k => "ord() expected string of length 1, but " ++ k.name ++ " found"
  | notOneChar length =>
    "ord() expected a character, but string of length " ++ Text.decimal length ++ " found"
  | sumOfTexts k =>
    if k = .text then "sum() can't sum strings [use ''.join(seq) instead]"
    else "sum() can't sum " ++ k.name ++ " [use b''.join(seq) instead]"
  | notReversible k => quote k.name ++ " object is not reversible"
  | notIterator k => quote k.name ++ " object is not an iterator"
  | notIterators k => "iter() returned non-iterator of type " ++ quote k.name
  | exhausted => ""
  | notJoinable => "can only join an iterable"
  | notJoined index k =>
    "sequence item " ++ Text.decimal index ++ ": expected str instance, " ++ k.name ++ " found"
  | noSubtext binary => if binary then "subsection not found" else "substring not found"
  | notInList shown => shown ++ " is not in list"
  | notInTuple => "tuple.index(x): x not in tuple"
  | negativeCount => "negative count"
  | notConvertible k => "cannot convert " ++ quote k.name ++ " object to bytes"
  | notType isItemised =>
    if isItemised then "isinstance() argument 2 cannot be a parameterized generic"
    else "isinstance() arg 2 must be a type, a tuple of types, or a union"
  | notPair index =>
    "cannot convert dictionary update sequence element #" ++ Text.decimal index ++ " to a sequence"
  | notUnpackable k => "cannot unpack non-iterable " ++ k.name ++ " object"
  | tooFew wanted given =>
    "not enough values to unpack (expected " ++ Text.decimal wanted ++ ", got "
      ++ Text.decimal given ++ ")"
  | tooFewAtLeast wanted given =>
    "not enough values to unpack (expected at least " ++ Text.decimal wanted ++ ", got "
      ++ Text.decimal given ++ ")"
  | tooMany wanted => "too many values to unpack (expected " ++ Text.decimal wanted ++ ")"
  | negativeLengthGiven => "length should not be negative"
  | badKind => "bad argument type for built-in operation"
  | fewSources => "map() must have at least two arguments."
  | typeArguments => "type() takes 1 or 3 arguments"
  | placeIndex index =>
    "Replacement index " ++ Text.decimal index ++ " out of range for positional args tuple"
  | textPlace flaw => flaw.message
  | argumentKind function place label wanted k =>
    function ++ "() argument "
      ++ (match place with
        | some n => Text.decimal n ++ " "
        | none => if label.isEmpty then "" else quote label ++ " ")
      ++ "must be " ++ wanted ++ ", not " ++ if k = .absent then "None" else k.name
  | notSought k => "must be str, not " ++ k.name
  | notEdge function binary k =>
    function ++ " first arg must be " ++ (if binary then "bytes or a tuple of bytes"
      else "str or a tuple of str") ++ ", not " ++ k.name
  | notEdgeItem function binary k =>
    if binary then "a bytes-like object is required, not " ++ quote k.name
    else "tuple for " ++ function ++ " must only contain str, not " ++ k.name
  | notStripped function => function ++ " arg must be None or str"
  | notSeparator k => "must be str or None, not " ++ k.name
  | emptySeparator => "empty separator"
  | notSoughtBytes k => "argument should be integer or bytes-like object, not " ++ quote k.name
  | notJoinedBytes index k =>
    "sequence item " ++ Text.decimal index ++ ": expected a bytes-like object, " ++ k.name
      ++ " found"
  | fillWidth => "The fill character must be exactly one character long"
  | fillKind k => "The fill character must be a unicode character, not " ++ k.name
  | tableRecord => "if you give only one argument to maketrans it must be a dict"
  | tableFirst => "first maketrans argument must be a string if there is a second argument"
  | tableLengths binary =>
    if binary then "maketrans arguments must have same length"
    else "the first two maketrans arguments must have equal length"
  | tableKeyLength => "string keys in translate table must be of length 1"
  | tableKeyKind => "keys in translate table must be strings or integers"
  | tableValue => "character mapping must return integer, None or str"
  | tableRange => "character mapping must be in range(0x110000)"
  | tableSize => "translation table must be 256 characters long"
  | markLength => "sep must be length 1."
  | markKind => "sep must be str or bytes."
  | markRange => "sep must be ASCII."
  | notInListRemove => "list.remove(x): x not in list"
  | popRange => "pop index out of range"
  | assignmentRange => "list assignment index out of range"
  | sliceLength given wanted =>
    "attempt to assign sequence of size " ++ Text.decimal given ++ " to extended slice of size "
      ++ Text.decimal wanted
  | sliceItems => "can only assign an iterable"
  | emptyBuffer => "pop from empty bytearray"
  | notInBuffer => "value not found in bytearray"
  | noPositional function => function ++ "() takes no positional arguments"
  | nonHex position =>
    "non-hexadecimal number found in fromhex() arg at position " ++ Text.decimal position
  | notCallableSource => "iter(v, w): v must be callable"
  | notAttributeName k => "attribute name must be string, not " ++ quote k.name
  | pairLength index given =>
    "dictionary update sequence element #" ++ Text.decimal index ++ " has length "
      ++ Text.decimal given ++ "; 2 is required"
  | notInRange shown => shown ++ " is not in range"
  | noParts => "vars() argument must have __dict__ attribute"
  | notConvertibleTo type k => "cannot convert " ++ quote k.name ++ " object to " ++ type
  | noView k => "memoryview: a bytes-like object is required, not " ++ quote k.name
  | noArgumentsOf type => type ++ " takes no arguments"
  | noInstances type => "cannot create " ++ quote type ++ " instances"
  | notClasses isItemised =>
    if isItemised then "issubclass() argument 2 cannot be a parameterized generic"
    else "issubclass() arg 2 must be a class, a tuple of classes, or a union"
  | notClass => "issubclass() arg 1 must be a class"
  | noModule _ => "module name must be a string"
  | unboundOperation owner name =>
    "descriptor " ++ quote name ++ " of " ++ quote owner ++ " object needs an argument"
  | foreignOperand owner name k =>
    "descriptor " ++ quote name ++ " requires a " ++ quote owner ++ " object but received a "
      ++ quote k.name
  | unboundMethod owner name =>
    "unbound method " ++ owner ++ "." ++ name ++ "() needs an argument"
  | missingLabel type label => type ++ "() missing required argument " ++ quote label
  | badMode => "compile() mode must be 'exec', 'eval' or 'single'"
  | notRaisable => "exceptions must derive from BaseException"
  | noItemChange k => quote k.name ++ " object does not support item assignment"
  | noItemRemoval k => quote k.name ++ " object doesn't support item deletion"
  | noChange o k l =>
    "unsupported operand type(s) for " ++ o.sign ++ "=: " ++ quote k.name ++ " and "
      ++ quote l.name
  | notStatement => "exec() arg 1 must be a string, bytes or code object"
  | expected wanted given => "expected " ++ arguments wanted ++ ", got " ++ Text.decimal given
  | noArguments name => name ++ "() takes no arguments"
  | unset isOwn name =>
    "cannot access " ++ (if isOwn then "local" else "free") ++ " variable " ++ quote name
      ++ " where it is not associated with a value" ++ if isOwn then "" else " in enclosing scope"
  | raised _ wording => wording
  | notReadSize k => "argument should be integer or None, not " ++ quote k.name
  | badOrigin n => "invalid whence (" ++ Text.decimal n ++ ", should be 0, 1 or 2)"
  | closedFile => "I/O operation on closed file."
  | notFault k =>
    "exceptions must be classes or instances deriving from BaseException, not " ++ k.name
  | lostEnd => "generator raised StopIteration"
  | unboundNew type => type ++ ".__new__(): not enough arguments"
  | finalType name => "type " ++ quote name ++ " is not an acceptable base type"
  | preparedValue k => "__init__() should return None, not " ++ quote k.name
  | fixedType type name =>
    "cannot set " ++ quote name ++ " attribute of immutable type " ++ quote type
  | fixedField => "can't set attribute"
  | keptField => "can't delete attribute"
  | fixedPart k name =>
    "attribute " ++ quote name ++ " of " ++ quote k.name ++ " objects is not writable"
  | fixedFunction k name =>
    quote k.name ++ " object attribute " ++ quote name ++ " is read-only"
  | fieldCount wanted given =>
    "Expected " ++ Text.decimal wanted ++ " arguments, got " ++ Text.decimal given
  | unknownFields shown => "Got unexpected field names: " ++ shown
  | badTypeName shown => "Type names and field names must be valid identifiers: " ++ shown
  | reservedTypeName shown => "Type names and field names cannot be a keyword: " ++ shown
  | hiddenField shown => "Field names cannot start with an underscore: " ++ shown
  | repeatedField shown => "Encountered duplicate field name: " ++ shown
  | manyDefaults => "Got more default values than field names"
  | negativeSize => "__len__() should return >= 0"
  | notOwnText f k =>
    f ++ (if f = "__format__" then " must return a str, not " else " returned non-string (type ")
      ++ k.name ++ if f = "__format__" then "" else ")"
  | resized k =>
    (if k = .set then "Set" else "dictionary") ++ " changed size during iteration"
  | unequalSources isLonger index =>
    "zip() argument " ++ Text.decimal (index + 1) ++ " is " ++
      (if isLonger then "longer" else "shorter")
      ++ " than argument" ++ if index = 1 then " 1" else "s 1-" ++ Text.decimal index
  | noSuper => "super(): no arguments"
  | noNames => "locals must be a mapping"
  | noWorld hasItems =>
    if hasItems then "globals must be a real dict; try eval(expr, \x7b\x7d, mapping)"
    else "globals must be a dict"
  | missingModule name => "No module named " ++ quote name
  | tooDeep reading =>
    "maximum recursion depth exceeded" ++ if reading then " during compilation" else ""

  | packing flaw => flaw.message
  | encoding flaw => flaw.message
  | format flaw => flaw.message
  | numeric flaw => flaw.message

end Misuse

end Nsis
