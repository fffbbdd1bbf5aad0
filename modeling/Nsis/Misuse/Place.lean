import Nsis.Misuse.Family

/-!
# Places in texts

What is wrong with the places of a text that are to be filled.

## Main definitions

* `Nsis.Misuse.PlaceFlaw` — the causes.
* `Nsis.Misuse.PlaceFlaw.message` — the wording of each.
-/

namespace Nsis.Misuse

/-- What is wrong with the places of a text. -/
inductive PlaceFlaw where
  /-- A brace without its partner. -/
  | single (c : Char)
  /-- A place that does not end. -/
  | unfinished
  /-- A brace in the name of a place. -/
  | braceInName
  /-- A conversion without a letter. -/
  | noConversion
  /-- Something else than a format behind a conversion. -/
  | behindConversion
  | conversion (letter : Char)
  /-- A format that does not end. -/
  | openFormat
  /-- Places in the format of a place in a format. -/
  | tooDeep
  /-- Places with and without a number. -/
  | mixed (toManual : Bool)
  /-- A place with a number where there are only names. -/
  | positional
  | emptyPart
  | openBracket
  | behindBracket
  deriving DecidableEq, Repr

/-- The wording of what is wrong with the places of a text. -/
def PlaceFlaw.message : PlaceFlaw → String
  | single c => "Single '" ++ String.ofList [c] ++ "' encountered in format string"
  | unfinished => "expected '\x7d' before end of string"
  | braceInName => "unexpected '\x7b' in field name"
  | noConversion => "end of string while looking for conversion specifier"
  | behindConversion => "expected ':' after conversion specifier"
  | conversion c =>
    "Unknown conversion specifier "
      ++ if 32 < c.toNat && c.toNat < 127 then String.ofList [c]
        else "\\x" ++ String.ofList (Nat.toDigits 16 c.toNat)
  | openFormat => "unmatched '\x7b' in format spec"
  | tooDeep => "Max string recursion exceeded"
  | mixed toManual =>
    if toManual then
      "cannot switch from automatic field numbering to manual field specification"
    else "cannot switch from manual field specification to automatic field numbering"
  | positional => "Format string contains positional fields"
  | emptyPart => "Empty attribute in format string"
  | openBracket => "Missing ']' in format string"
  | behindBracket => "Only '.' or '[' may follow ']' in format field specifier"

end Nsis.Misuse
