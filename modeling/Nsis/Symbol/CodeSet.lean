import Nsis.Version

/-!
# Code bytes

Inside a string, four byte values do not stand for a character. Which four depends on the major
version of the installer.

## Main definitions

* `Nsis.CodeSet` — the two choices of code bytes.
* `Nsis.CodeSet.lang`, `shell`, `var`, `skip` — the code bytes.
* `Nsis.CodeSet.isCode` — whether a byte introduces two parameter bytes.
-/

namespace Nsis

/-- The choice of code bytes: high ones in version 2, low ones in version 3. -/
inductive CodeSet where
  | high
  | low
  deriving DecidableEq, Repr

namespace CodeSet

/-- The version of installers that use a code set. -/
def version : CodeSet → String
  | high => "2"
  | low => "3"

/-- The code set a version tag names. -/
def ofVersion? : VersionTag → Option CodeSet
  | .text "3" => some low
  | .text "2" => some high
  | _ => none

/-- The byte before the number of a language string. -/
def lang : CodeSet → UInt8
  | high => 255
  | low => 1

/-- The byte before the identifiers of a shell folder. -/
def shell : CodeSet → UInt8
  | high => 254
  | low => 2

/-- The byte before the number of a variable. -/
def var : CodeSet → UInt8
  | high => 253
  | low => 3

/-- The byte that announces that the next one is no code. -/
def skip : CodeSet → UInt8
  | high => 252
  | low => 4

/-- Whether a number lies on the code side of the skip byte. -/
def isBeyondSkip (codes : CodeSet) (n : Int) : Bool :=
  match codes with
  | high => codes.skip.toNat < n
  | low => n < codes.skip.toNat

/-- Whether a byte lies on the code side of the skip byte. -/
def isCode (codes : CodeSet) (c : UInt8) : Bool :=
  match codes with
  | high => codes.skip < c
  | low => c < codes.skip

/-- As a number, a byte lies on the code side of the skip byte exactly if it does so as a byte. -/
theorem isBeyondSkip_toNat (codes : CodeSet) (c : UInt8) :
    codes.isBeyondSkip c.toNat = codes.isCode c := by
  cases codes with
  | high =>
    show decide ((252 : Int) < c.toNat) = decide ((252 : UInt8) < c)
    rw [decide_eq_decide, UInt8.lt_iff_toNat_lt]
    exact Int.ofNat_lt
  | low =>
    show decide ((c.toNat : Int) < 4) = decide (c < (4 : UInt8))
    rw [decide_eq_decide, UInt8.lt_iff_toNat_lt]
    exact Int.ofNat_lt

end CodeSet

end Nsis
