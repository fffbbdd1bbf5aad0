import Nsis.Installer.Basic

/-!
# Sessions

A session answers queries about an installer. It keeps every block that was asked for, so that it is
cut out of the header only once, and it may hold a handle that is closed together with it.

## Main definitions

* `Nsis.Session` — an installer, the blocks seen so far, and the handle.
* `Nsis.Session.ofFile` — the session after an installer was read.
* `Nsis.Query`, `Nsis.Answer` — what can be asked, and what is answered.
* `Nsis.Session.ask` — answering a query.
* `Nsis.Session.close`, `Nsis.Session.attach` — the handle.
-/

namespace Nsis

/-- A session with an installer. -/
structure Session where
  installer : Installer
  /-- The blocks seen so far by their numbers. -/
  cache : List (Int × Bytes) := []
  /-- How often the attached handle was closed, if there is one. -/
  handle : Option Nat := none

/-- What can be asked about an installer. -/
inductive Query where
  /-- The text of the string at an address. -/
  | text (address : Int)
  /-- The stored bytes of the string at an address. -/
  | raw (address : Int)
  /-- All texts. -/
  | texts
  /-- All stored strings. -/
  | raws
  /-- The bytes of a block. -/
  | block (n : Int)
  /-- The size of the unpacked header. -/
  | size
  deriving DecidableEq, Repr

/-- Answers to queries. -/
inductive Answer where
  | text (s : String)
  | bytes (b : Bytes)
  | texts (ss : List String)
  | raws (bs : List Bytes)
  | number (n : Nat)
  deriving DecidableEq, Repr

namespace Session

/-- The block with number `n`, from those seen so far or out of the header. A block that does not
exist is not kept. -/
def block (s : Session) (n : Int) : Except Fault Bytes × Session :=
  match s.cache.lookup n with
  | some b => (.ok b, s)
  | none =>
    match s.installer.image.block n with
    | .ok b => (.ok b, { s with cache := (n, b) :: s.cache })
    | .error e => (.error e, s)

/-- The session after an installer was read, which has seen the blocks that hold records and
strings. -/
def ofInstaller (i : Installer) : Session :=
  [BlockId.strings, BlockId.pages, BlockId.sections, BlockId.entries].foldl
    (fun s (n : Nat) => (s.block n).2) { installer := i }

/-- Read an installer from a file and open a session with it. -/
def ofFile (f : File) : Except Fault Session :=
  (Installer.read f).map ofInstaller

/-- Answer from the block of strings. -/
def withStrings (s : Session) (f : Bytes → Except Fault Answer) : Except Fault Answer × Session :=
  match s.block BlockId.strings with
  | (.ok b, s) => (f b, s)
  | (.error e, s) => (.error e, s)

/-- Answer a query. -/
def ask (s : Session) : Query → Except Fault Answer × Session
  | .text address => s.withStrings fun b => (Strings.textAt b address).map .text
  | .raw address => s.withStrings fun b => .ok (.bytes (Strings.rawAt b address))
  | .texts => s.withStrings fun b => (Strings.texts b).map .texts
  | .raws => s.withStrings fun b => .ok (.raws (Strings.raws b))
  | .block n => ((s.block n).1.map .bytes, (s.block n).2)
  | .size => (.ok (.number s.installer.size), s)

/-- The numbers of the blocks seen so far, in order. -/
def cached (s : Session) : List Int :=
  (s.cache.map (·.1)).mergeSort

/-- Attach a new handle. -/
def attach (s : Session) : Session :=
  { s with handle := some 0 }

/-- Close the attached handle, if there is one. -/
def close (s : Session) : Session :=
  { s with handle := s.handle.map (· + 1) }

end Session

end Nsis
