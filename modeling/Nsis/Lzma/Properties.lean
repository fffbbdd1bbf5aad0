import Nsis.Bytes

/-!
# LZMA properties

Five bytes before an LZMA stream say how it was coded: how many bits of the previous byte and of the
position select the chances for a literal, how many bits of the position select those for the kind
of a packet, and how far back copies may reach.

## Main definitions

* `Nsis.Lzma.Properties` — the properties.
* `Nsis.Lzma.Properties.ofBytes?` — reading them.
-/

namespace Nsis.Lzma

/-- How a stream was coded. -/
structure Properties where
  /-- How many high bits of the previous byte select the chances for a literal. -/
  contextBits : Nat
  /-- How many low bits of the position select the chances for a literal. -/
  literalBits : Nat
  /-- How many low bits of the position select the chances for a packet. -/
  positionBits : Nat
  /-- The size of the dictionary as it is stored. -/
  dictionary : Nat
  deriving DecidableEq, Repr

namespace Properties

/-- Read properties from the first five bytes of a byte string. At most four bits may select the
chances for a literal. -/
def ofBytes? (data : Bytes) : Option Properties :=
  match data with
  | b :: data =>
    if data.length < 4 ∨ 224 < b.toNat then none
    else
      let p : Properties :=
        { contextBits := b.toNat % 9
          literalBits := b.toNat / 9 % 5
          positionBits := b.toNat / 45
          dictionary := Bytes.value (data.take 4) }
      if 4 < p.contextBits + p.literalBits then none else some p
  | [] => none

/-- How far back copies may reach: at least 4096 bytes, and a multiple of sixteen. -/
def reach (p : Properties) : Nat :=
  (max 4096 p.dictionary + 15) / 16 * 16

end Properties

end Nsis.Lzma
