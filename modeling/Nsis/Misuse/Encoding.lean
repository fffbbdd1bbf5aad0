import Nsis.Misuse.Family

/-!
# Encodings

What is wrong with texts and byte strings that are turned into one another.

## Main definitions

* `Nsis.Misuse.EncodingFlaw` — the causes.
* `Nsis.Misuse.EncodingFlaw.family`, `Nsis.Misuse.EncodingFlaw.message` — their families and
  wording.
-/

namespace Nsis.Misuse

open Datum (Kind)

/-- What is wrong with texts and byte strings that are turned into one another. -/
inductive EncodingFlaw where
  | noEncoding
  | notDecodable (k : Kind)
  | unknownEncoding (name : String)
  /-- Bytes at a position that are no character, of which there are `count`. -/
  | undecodable (encoding : String) (byte : UInt8) (position count : Nat) (reason : String)
  /-- Characters at a position, of which there are `count`, that an encoding does not have; the
  numbers of those it has may be below a limit. -/
  | notEncodable (encoding : String) (c : Char) (position count : Nat) (limit : Option Nat)
  /-- A way to go on behind an error that is not known. -/
  | unknownHandler (name : String)
  /-- A way to go on behind an error that is only there for the other direction. -/
  | oneWayHandler
  /-- An encoding that is none of texts. -/
  | notTextEncoding (decodes : Bool) (name : String)
  /-- A name with a character that ends it. -/
  | nullInName
  | encodingWithout
  | errorsWithout
  deriving DecidableEq, Repr

namespace EncodingFlaw

/-- The family of a cause. -/
def family : EncodingFlaw → Family
  | undecodable _ _ _ _ _ => .decoding
  | notEncodable _ _ _ _ _ => .encoding
  | nullInName => .value
  | unknownEncoding _ | unknownHandler _ | notTextEncoding _ _ => .lookup
  | _ => .kind

/-- The wording of a cause. -/
def message : EncodingFlaw → String
  | noEncoding => "string argument without an encoding"
  | notDecodable .text => "decoding str is not supported"
  | notDecodable k => "decoding to str: need a bytes-like object, " ++ k.name ++ " found"
  | unknownEncoding name => "unknown encoding: " ++ name
  | undecodable encoding byte position n reason =>
    quote encoding ++ " codec can't decode "
      ++ (if n = 1 then "byte 0x" ++ String.ofList (Text.padded 2 byte.toNat)
          ++ " in position " ++ Text.decimal position
        else "bytes in position " ++ Text.decimal position ++ "-"
          ++ Text.decimal (position + n - 1))
      ++ ": " ++ reason
  | notEncodable encoding c position n limit =>
    quote encoding ++ " codec can't encode "
      ++ (if n = 1 then "character " ++ quote (String.ofList (Text.escaped c))
          ++ " in position " ++ Text.decimal position
        else "characters in position " ++ Text.decimal position ++ "-"
          ++ Text.decimal (position + n - 1))
      ++ (match limit with
        | some n => ": ordinal not in range(" ++ Text.decimal n ++ ")"
        | none => ": character maps to <undefined>")
  | unknownHandler name => "unknown error handler name " ++ quote name
  | oneWayHandler => "don't know how to handle UnicodeDecodeError in error callback"
  | notTextEncoding decodes name =>
    quote name ++ " is not a text encoding; use codecs."
      ++ (if decodes then "decode" else "encode") ++ "() to handle arbitrary codecs"
  | nullInName => "embedded null character"
  | encodingWithout => "encoding without a string argument"
  | errorsWithout => "errors without a string argument"

end EncodingFlaw

end Nsis.Misuse
