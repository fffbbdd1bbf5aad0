import Nsis.Text.Numeral

/-!
# Malformed formulas

Why a text is no formula, and in which line that shows.

## Main definitions

* `Nsis.Malformed.Flaw` — the causes.
* `Nsis.Malformed` — a cause with its line.
* `Nsis.Malformed.message` — the wording.
-/

namespace Nsis

namespace Malformed

/-- The kinds of numerals. -/
inductive NumeralKind where
  | binary
  | octal
  | decimal
  | hexadecimal
  | imaginary
  deriving DecidableEq, Repr

/-- The name of a kind of numerals. -/
def NumeralKind.name : NumeralKind → String
  | binary => "binary"
  | octal => "octal"
  | decimal => "decimal"
  | hexadecimal => "hexadecimal"
  | imaginary => "imaginary"

/-- What can be wrong with an escaped character of a text. -/
inductive BadEscape where
  /-- Too few hexadecimal digits behind the letter, which stands for `width` of them. -/
  | truncated (letter : Char) (width : Nat)
  /-- A number that no character has. -/
  | illegal
  /-- A name of a character that is not in braces. -/
  | unnamed
  deriving DecidableEq, Repr

/-- What is wrong with an escaped character. -/
def BadEscape.cause : BadEscape → String
  | truncated letter width =>
    "truncated \\" ++ String.ofList (letter :: List.replicate width 'X') ++ " escape"
  | illegal => "illegal Unicode character"
  | unnamed => "malformed \\N character escape"

/-- Why a text is no formula. -/
inductive Flaw where
  /-- Something stands where it cannot. -/
  | misplaced
  /-- A line is set off without a reason. -/
  | indented
  /-- The character with the number zero. -/
  | zeroChar
  /-- A character that cannot be seen. -/
  | hiddenChar (c : Char)
  /-- A character that no formula contains. -/
  | wrongChar (c : Char)
  /-- A backslash that continues no line. -/
  | strayBackslash
  /-- A continued line that does not come. -/
  | brokenOff
  /-- A text without its closing quotation mark, up to the given line. -/
  | openText (line : Nat)
  /-- A text without its three closing quotation marks, up to the given line. -/
  | openLongText (line : Nat)
  /-- A bracket that is not closed. -/
  | neverClosed (c : Char)
  /-- A closing bracket without an opening one. -/
  | unmatched (c : Char)
  /-- A closing bracket of another kind than the opening one, which may be in another line. -/
  | mismatch (closing opening : Char) (line : Option Nat)
  /-- Too many brackets inside one another. -/
  | tooDeep
  /-- A numeral that goes on with something else than digits. -/
  | badNumeral (kind : NumeralKind)
  /-- A digit that is too large for its base. -/
  | badDigit (c : Char) (kind : NumeralKind)
  /-- A decimal numeral with zeros in front. -/
  | leadingZeros
  /-- A decimal numeral with too many digits. -/
  | hugeNumeral (digits : Nat)
  /-- Two formulas side by side in brackets. -/
  | missingComma
  /-- A condition without an alternative. -/
  | missingElse
  /-- A single equals sign behind a name. -/
  | assignment
  /-- A single equals sign behind something that is no name. -/
  | notAssignable (what : String)
  /-- Something that is no name where a value is to be named. -/
  | notNameable (what : String)
  /-- Something that is no name where a variable is needed. -/
  | notVariable (what : String)
  /-- A single equals sign behind an argument that is no name. -/
  | argumentAssignment
  /-- A star in front of something in brackets. -/
  | strayStar
  /-- Two stars in front of something in brackets. -/
  | strayDoubleStar
  /-- A star in front of a value of a record. -/
  | starredValue
  /-- A key without a value. -/
  | missingValue
  /-- A key without a colon. -/
  | missingColon
  /-- An argument behind named ones, which may have been unpacked. -/
  | lateArgument (unpacked : Bool)
  /-- A series among other arguments without brackets of its own. -/
  | bareSeries
  /-- A call without brackets. -/
  | missingBrackets (name : String)
  /-- A character outside ASCII in a byte string. -/
  | foreignByte
  /-- Texts next to byte strings. -/
  | mixedTexts
  /-- A wrong escape in a text, between two positions. -/
  | badEscape (start last : Nat) (escape : BadEscape)
  /-- A wrong escape in a byte string, at a position. -/
  | badByteEscape (start : Nat)
  /-- A field of a text that is not closed. -/
  | openField
  /-- A closing brace in a text without an opening one. -/
  | strayBrace
  /-- A field of a text without a formula before the character that ends it. -/
  | emptyField (mark : Char)
  /-- A field inside the format of another one that is in a format itself. -/
  | nestedFields
  /-- A text in a field without its closing quotation mark. -/
  | openFieldText
  /-- A bracket in a field that stands alone. -/
  | fieldUnmatched (c : Char)
  /-- A closing bracket in a field of another kind than the opening one. -/
  | fieldMismatch (closing opening : Char)
  | fieldBackslash
  /-- A comment in a field. -/
  | fieldComment
  /-- An exclamation mark in a field in front of a letter that is none of its letters. -/
  | badConversion
  /-- What is wrong with the formula of a field. -/
  | inField (cause : Flaw)
  /-- A star without something behind it. -/
  | bareStar
  /-- A parameter without its default. -/
  | missingDefault
  /-- A parameter without a default behind one that has it. -/
  | lateParameter
  /-- Two parameters with the same name. -/
  | repeatedParameter (name : String)
  /-- Parameters in brackets. -/
  | bracketedParameters
  /-- A slash without parameters in front of it. -/
  | earlySlash
  /-- A second slash among parameters. -/
  | secondSlash
  /-- A slash behind a star among parameters. -/
  | lateSlash
  /-- A star without parameters behind it. -/
  | bareMark
  /-- A second star among parameters. -/
  | secondStar
  /-- Parameters behind the one that takes the arguments with a name that are left over. -/
  | behindRecord
  /-- A default of a parameter that takes what is left over. -/
  | restDefault (labelled : Bool)
  /-- A gathering of the items of other groups. -/
  | starredGathering
  /-- A gathering of the entries of other records. -/
  | spreadGathering
  /-- A gathering of several items without brackets around them. -/
  | openGathering
  /-- A name that is given in the source of a clause. -/
  | namedInSource
  /-- A name that is given to something else where it is the variable of a clause. -/
  | renamedVariable (name : String)
  /-- A star in front of the only variable of a clause. -/
  | loneRest
  /-- Two arguments with the same name. -/
  | repeatedArgument (name : String)
  /-- Items of a group behind entries of a record as arguments. -/
  | lateItems
  /-- A word that only functions have a use for. -/
  | outsideFunction (word : String)
  /-- A word that only functions which wait have a use for. -/
  | outsideWaiting (word : String)
  /-- A gathering that waits. -/
  | waitingGathering
  deriving DecidableEq, Repr

/-- The number of a character, in capital digits. -/
def charNumber (c : Char) : String :=
  "U+" ++ String.ofList ((Text.padded 4 c.toNat).map Char.toUpper)

/-- A character between apostrophes. -/
def apostrophed (c : Char) : String :=
  "'" ++ String.ofList [c] ++ "'"

/-- What is wrong with a text that is no formula. -/
def Flaw.cause : Flaw → String
  | misplaced => "invalid syntax"
  | indented => "unexpected indent"
  | zeroChar => "source code string cannot contain null bytes"
  | hiddenChar c => "invalid non-printable character " ++ charNumber c
  | wrongChar c => "invalid character " ++ apostrophed c ++ " (" ++ charNumber c ++ ")"
  | strayBackslash => "unexpected character after line continuation character"
  | brokenOff => "unexpected EOF while parsing"
  | openText line =>
    "unterminated string literal (detected at line " ++ Text.decimal line ++ ")"
  | openLongText line =>
    "unterminated triple-quoted string literal (detected at line " ++ Text.decimal line ++ ")"
  | neverClosed c => apostrophed c ++ " was never closed"
  | unmatched c => "unmatched " ++ apostrophed c
  | mismatch closing opening line =>
    "closing parenthesis " ++ apostrophed closing ++ " does not match opening parenthesis "
      ++ apostrophed opening
      ++ match line with
        | some n => " on line " ++ Text.decimal n
        | none => ""
  | tooDeep => "too many nested parentheses"
  | badNumeral kind => "invalid " ++ kind.name ++ " literal"
  | badDigit c kind => "invalid digit " ++ apostrophed c ++ " in " ++ kind.name ++ " literal"
  | leadingZeros =>
    "leading zeros in decimal integer literals are not permitted; "
      ++ "use an 0o prefix for octal integers"
  | hugeNumeral digits =>
    "Exceeds the limit (4300 digits) for integer string conversion: value has "
      ++ Text.decimal digits ++ " digits; use sys.set_int_max_str_digits() to increase the limit"
      ++ " - Consider hexadecimal for huge integer literals to avoid decimal conversion limits."
  | missingComma => "invalid syntax. Perhaps you forgot a comma?"
  | missingElse => "expected 'else' after 'if' expression"
  | assignment => "invalid syntax. Maybe you meant '==' or ':=' instead of '='?"
  | notAssignable what =>
    "cannot assign to " ++ what ++ " here. Maybe you meant '==' instead of '='?"
  | notNameable what => "cannot use assignment expressions with " ++ what
  | notVariable what => "cannot assign to " ++ what
  | argumentAssignment =>
    "expression cannot contain assignment, perhaps you meant \"==\"?"
  | strayStar => "cannot use starred expression here"
  | strayDoubleStar => "cannot use double starred expression here"
  | starredValue => "cannot use a starred expression in a dictionary value"
  | missingValue => "expression expected after dictionary key and ':'"
  | missingColon => "':' expected after dictionary key"
  | lateArgument unpacked =>
    "positional argument follows keyword argument" ++ if unpacked then " unpacking" else ""
  | bareSeries => "Generator expression must be parenthesized"
  | missingBrackets name =>
    "Missing parentheses in call to '" ++ name ++ "'. Did you mean " ++ name ++ "(...)?"
  | foreignByte => "bytes can only contain ASCII literal characters"
  | mixedTexts => "cannot mix bytes and nonbytes literals"
  | badEscape start last escape =>
    "(unicode error) 'unicodeescape' codec can't decode bytes in position " ++ Text.decimal start
      ++ "-" ++ Text.decimal last ++ ": " ++ escape.cause
  | badByteEscape start =>
    "(value error) invalid \\x escape at position " ++ Text.decimal start
  | openField => "f-string: expecting '\x7d'"
  | strayBrace => "f-string: single '\x7d' is not allowed"
  | emptyField mark =>
    if mark = '\x7d' then "f-string: empty expression not allowed"
    else "f-string: expression required before '" ++ String.ofList [mark] ++ "'"
  | nestedFields => "f-string: expressions nested too deeply"
  | openFieldText => "f-string: unterminated string"
  | fieldUnmatched c => "f-string: unmatched " ++ apostrophed c
  | fieldMismatch closing opening =>
    "f-string: closing parenthesis " ++ apostrophed closing
      ++ " does not match opening parenthesis " ++ apostrophed opening
  | fieldBackslash => "f-string expression part cannot include a backslash"
  | fieldComment => "f-string expression part cannot include '#'"
  | badConversion => "f-string: invalid conversion character: expected 's', 'r', or 'a'"
  | inField cause => "f-string: " ++ cause.cause
  | bareStar => "Invalid star expression"
  | missingDefault => "expected default value expression"
  | lateParameter => "non-default argument follows default argument"
  | repeatedParameter name =>
    "duplicate argument '" ++ name ++ "' in function definition"
  | bracketedParameters => "Lambda expression parameters cannot be parenthesized"
  | earlySlash => "at least one argument must precede /"
  | secondSlash => "/ may appear only once"
  | lateSlash => "/ must be ahead of *"
  | bareMark => "named arguments must follow bare *"
  | secondStar => "* argument may appear only once"
  | behindRecord => "arguments cannot follow var-keyword argument"
  | restDefault labelled =>
    (if labelled then "var-keyword" else "var-positional") ++ " argument cannot have default value"
  | starredGathering => "iterable unpacking cannot be used in comprehension"
  | spreadGathering => "dict unpacking cannot be used in dict comprehension"
  | openGathering => "did you forget parentheses around the comprehension target?"
  | namedInSource =>
    "assignment expression cannot be used in a comprehension iterable expression"
  | renamedVariable name =>
    "assignment expression cannot rebind comprehension iteration variable '" ++ name ++ "'"
  | loneRest => "starred assignment target must be in a list or tuple"
  | repeatedArgument name => "keyword argument repeated: " ++ name
  | lateItems => "iterable argument unpacking follows keyword argument unpacking"
  | outsideFunction word => "'" ++ word ++ "' outside function"
  | outsideWaiting word => "'" ++ word ++ "' outside async function"
  | waitingGathering => "asynchronous comprehension outside of an asynchronous function"

end Malformed

/-- Why a text is no formula, and in which line that shows. -/
structure Malformed where
  flaw : Malformed.Flaw
  line : Nat
  deriving DecidableEq, Repr

namespace Malformed

/-- The wording, with the line. A character with the number zero is found before lines are
counted. -/
def message (m : Malformed) : String :=
  if m.flaw = .zeroChar then m.flaw.cause
  else m.flaw.cause ++ " (<string>, line " ++ Text.decimal m.line ++ ")"

end Malformed

end Nsis
