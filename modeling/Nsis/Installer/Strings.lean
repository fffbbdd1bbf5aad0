import Nsis.Symbol.Decode

/-!
# The block of strings

The strings of an installer stand one after another, each closed by a zero byte. Read as they are
stored, they end at zero bytes; decoded, a zero byte may also be the parameter of a code.

## Main definitions

* `Nsis.Strings.rawAt` — the stored bytes of the string at an address.
* `Nsis.Strings.raws` — all strings as they are stored, without empty ones.
* `Nsis.Strings.textAt` — the text of the string at an address.
* `Nsis.Strings.texts` — all texts, without empty ones.
* `Nsis.Strings.vote` — the coding that the first bytes of strings suggest.
-/

namespace Nsis.Strings

/-- The coding in which strings are shown. -/
def shownCoding : VersionTag := .text "3"

/-- The stored bytes of the string at the start of a block. -/
def leading (block : Bytes) : Bytes :=
  block.takeWhile (· ≠ 0)

/-- The stored bytes of the string at an address. -/
def rawAt (block : Bytes) (address : Int) : Bytes :=
  leading (Signed.suffix block address)

/-- All strings of a block as they are stored, without empty ones. -/
def raws (block : Bytes) : List Bytes :=
  if _h : block.isEmpty then []
  else
    let s := leading block
    let rest := raws (block.drop (s.length + 1))
    if s.isEmpty then rest else s :: rest
termination_by block.length
decreasing_by
  simp only [List.isEmpty_iff] at _h
  have := List.length_pos_iff.mpr _h
  simp only [List.length_drop]
  omega

/-- The text of the string at an address. -/
def textAt (block : Bytes) (address : Int) : Except Fault String :=
  (decodeString block address shownCoding).map (·.1)

/-- How many strings begin with a byte that satisfies `p`. -/
def countLeading (p : UInt8 → Bool) (strings : List Bytes) : Nat :=
  strings.countP fun s => s.head?.any p

/-- The coding that strings suggest: the one with high codes if more strings begin with a byte from
252 on than with a byte up to 4. -/
def vote (strings : List Bytes) : CodeSet :=
  if countLeading (· ≤ 4) strings < countLeading (252 ≤ ·) strings then .high else .low

/-- A string that was read takes at least one byte, unless nothing was left. -/
theorem pos_of_tokens {codes : CodeSet} {room : Nat} {b : UInt8} {data : Bytes} {ts : List Token}
    {n : Nat} (h : tokens codes (room + 1) (b :: data) = .ok (ts, n)) : 0 < n := by
  unfold tokens at h
  split at h
  · cases h
    exact Nat.one_pos
  · split at h
    · split at h
      · simp only [bind, Except.bind] at h
        split at h
        · contradiction
        · cases h
          omega
      · contradiction
    · split at h
      · split at h <;> contradiction
      · simp only [bind, Except.bind] at h
        split at h
        · contradiction
        · cases h
          omega

/-- All texts of a block, without empty ones. Each string is read from behind the previous one. -/
def texts (block : Bytes) : Except Fault (List String) :=
  match block with
  | [] => .ok []
  | b :: data =>
    match _h : tokens .low maxStringLength (b :: data) with
    | .error e => .error e
    | .ok (ts, n) =>
      match texts ((b :: data).drop n) with
      | .error e => .error e
      | .ok rest =>
        let text := Symbol.textOf (Symbol.ofTokens ts)
        .ok (if text.isEmpty then rest else text :: rest)
termination_by block.length
decreasing_by
  have := pos_of_tokens _h
  simp only [List.length_drop, List.length_cons]
  omega

end Nsis.Strings
