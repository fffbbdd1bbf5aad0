/-!
# Paths

Paths inside an installer are those of Windows: both slashes separate, and a drive letter or a share
on a server may stand in front. Paths of the machine that runs the disassembler are joined with a
slash.

## Main definitions

* `Nsis.Text.Path.afterDrive` — a path without its drive or share.
* `Nsis.Text.Path.baseName` — the last part of a path.
* `Nsis.Text.Path.stem` — a file name without its extension.
* `Nsis.Text.Path.join` — a path below a directory.
-/

namespace Nsis.Text.Path

/-- Whether a character separates the parts of a path. -/
def isSeparator (c : Char) : Bool :=
  c = '\\' || c = '/'

/-- What follows the first separator, with the separator in front. -/
def fromSeparator (cs : List Char) : List Char :=
  cs.dropWhile fun c => !isSeparator c

/-- Whether a path names its share in the long form, `\\?\UNC\server\share`. -/
def isLongShare (cs : List Char) : Bool :=
  (cs.take 8).map (fun c => if isSeparator c then '\\' else c.toUpper)
    = ['\\', '\\', '?', '\\', 'U', 'N', 'C', '\\']

/-- A path without its drive or share. A share takes the two parts after its mark. -/
def afterDrive (cs : List Char) : List Char :=
  match cs with
  | a :: b :: rest =>
    if isSeparator a && isSeparator b then
      let server := if isLongShare cs then cs.drop 8 else rest
      fromSeparator ((fromSeparator server).drop 1)
    else if b = ':' then rest
    else cs
  | _ => cs

/-- The last part of a path. -/
def baseName (path : String) : String :=
  String.ofList
    ((afterDrive path.toList).reverse.takeWhile fun c => !isSeparator c).reverse

/-- A file name without its extension, which begins at the last dot. Dots at the start of a name
begin no extension. -/
def stem (name : String) : String :=
  match name.toList.reverse.dropWhile (· ≠ '.') with
  | [] => name
  | _ :: front =>
    if front.all (· = '.') then name else String.ofList front.reverse

/-- The path of `file` below `dir`. -/
def join (dir file : String) : String :=
  if dir.isEmpty || dir.endsWith "/" then dir ++ file else dir ++ "/" ++ file

end Nsis.Text.Path
