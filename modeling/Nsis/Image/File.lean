import Nsis.Bytes
import Nsis.Signed

/-!
# Files

An installer is read from a file with a position. Reading moves the position behind what was read; a
position beyond the end is possible, and nothing can be read there.

## Main definitions

* `Nsis.File` — content and position.
* `Nsis.File.rest` — what follows the position.
* `Nsis.File.read` — reading a number of bytes, or all of them.
* `Nsis.File.seek` — moving the position.
-/

namespace Nsis

/-- A file that is open for reading. -/
structure File where
  content : Bytes
  pos : Nat := 0
  deriving Repr

namespace File

/-- What follows the position. -/
def rest (f : File) : Bytes :=
  f.content.drop f.pos

/-- Read `size` bytes, or fewer at the end of the file; a negative size stands for all. -/
def read (f : File) (size : Int) : Bytes × File :=
  let data := if size < 0 then f.rest else f.rest.take size.toNat
  (data, { f with pos := f.pos + data.length })

/-- Move the position, which has to fit into 64 bits. -/
def seek (f : File) (position : Int) : Except Fault File :=
  if !Signed.fits position then .error .hugePosition
  else if position < 0 then .error (.negativePosition position)
  else .ok { f with pos := position.toNat }

end File

end Nsis
