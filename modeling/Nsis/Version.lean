import Nsis.Text.Quoted

/-!
# Version tags

The major version of an installer, which says how its strings are coded. A tag comes from outside
and may be anything; only the texts `2` and `3` name a coding.

## Main definitions

* `Nsis.VersionTag` — a version as it was given.
* `Nsis.VersionTag.shown` — how a message shows it.
-/

namespace Nsis

/-- A version as it was given: a text, a number, or nothing. -/
inductive VersionTag where
  | text (s : String)
  | number (n : Int)
  | missing
  deriving DecidableEq, Repr

namespace VersionTag

/-- How a message shows a version tag. -/
def shown : VersionTag → String
  | text s => Text.quoted s
  | number n => Text.decimal n
  | missing => "None"

/-- The version as a bare text. -/
def plain : VersionTag → String
  | text s => s
  | number n => Text.decimal n
  | missing => "None"

end VersionTag

end Nsis
