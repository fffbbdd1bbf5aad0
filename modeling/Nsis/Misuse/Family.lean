import Nsis.Datum

/-!
# Families of misuse

The families to which the causes of misuse belong.

## Main definitions

* `Nsis.Misuse.Family` — the families.
-/

namespace Nsis.Misuse

/-- The families of misuse. -/
inductive Family where
  | kind
  | value
  | position
  | part
  | size
  | zero
  | exhausted
  | depth
  /-- Layouts of packed data. -/
  | layout
  /-- Names of encodings. -/
  | lookup
  /-- Variables without a value, of the function that asks or of one around it. -/
  | unset (isOwn : Bool)
  /-- Something that happens at the wrong time. -/
  | time
  /-- Modules that are not there. -/
  | module
  /-- A family that a formula names. -/
  | named (name : String)
  /-- Bytes that are no characters. -/
  | decoding
  /-- Characters without bytes. -/
  | encoding
  deriving DecidableEq, Repr

/-- A word between apostrophes. -/
def quote (s : String) : String :=
  "'" ++ s ++ "'"

end Nsis.Misuse
