import Mathlib.Algebra.GroupWithZero.Nat
import Nsis.Proofs.Symbol.Parts
import Nsis.Script.References

/-!
# Where strings are named

The references of a string follow an address from symbol to symbol: by four for a code, and by the
length of its text for a literal. A code takes three bytes, and a character that is written after a
dollar sign takes one. So the address runs ahead of the bytes with every symbol but a literal
without such characters, and a literal is named where it stands only if it is the first symbol of
its string.

## Main definitions

* `Nsis.Part.start` — how many bytes stand before a part.
* `Nsis.Part.drift`, `Nsis.Part.driftBefore` — how far the address runs ahead with a part, and
  before one.
* `Nsis.Script.symbolEvents` — what is told about a single symbol.

## Main results

* `Nsis.Script.exists_events_symbolRefs` — what is told about the symbols of a string, one after the
  other.
* `Nsis.Part.driftBefore_eq_zero_iff` — the address has not run ahead of a literal exactly if it is
  the first part.
* `Nsis.Script.strings_are_named_with_drift` — where the literals of a string are named.
-/

namespace Nsis

namespace Part

variable {codes : CodeSet}

/-- How many bytes stand before part `k`. -/
def start (parts : List (Part codes)) (k : Nat) : Nat :=
  (written (parts.take k)).length

/-- How far the address runs ahead with a part: by one with a code, and with a run by what its text
is longer than its bytes. -/
def drift : Part codes → Nat
  | code _ _ _ => 1
  | run text _ _ => (text.flatMap writtenChar).length - text.length

/-- How far the address has run ahead before part `k`. -/
def driftBefore (parts : List (Part codes)) (k : Nat) : Nat :=
  ((parts.take k).map drift).sum

/-- The first part starts at the start. -/
@[simp] lemma start_zero (parts : List (Part codes)) : start parts 0 = 0 := rfl

/-- Nothing has drifted before the first part. -/
@[simp] lemma driftBefore_zero (parts : List (Part codes)) : driftBefore parts 0 = 0 := rfl

/-- A later part starts behind the first part and those between. -/
@[simp] lemma start_cons_succ (part : Part codes) (parts : List (Part codes)) (k : Nat) :
    start (part :: parts) (k + 1) = part.bytes.length + start parts k := by
  rw [start, List.take_succ_cons, written_cons, List.length_append, start]

/-- Before a later part, the address has drifted by the first part and those between. -/
@[simp] lemma driftBefore_cons_succ (part : Part codes) (parts : List (Part codes)) (k : Nat) :
    driftBefore (part :: parts) (k + 1) = part.drift + driftBefore parts k := by
  rw [driftBefore, List.take_succ_cons, List.map_cons, List.sum_cons, driftBefore]

/-- With a code the address runs ahead. -/
lemma drift_pos_of_not_isRun {part : Part codes} (h : ¬ part.IsRun) : 0 < part.drift := by
  cases part with
  | code kind p q => exact Nat.one_pos
  | run text nonempty chars => exact absurd trivial h

/-- The address runs ahead of every run but the first part: a code stands before it. -/
lemma driftBefore_pos {parts : List (Part codes)} (hsep : Separated parts) {k : Nat}
    {part : Part codes} (hpart : parts[k + 1]? = some part) (hrun : part.IsRun) :
    0 < driftBefore parts (k + 1) := by
  induction k generalizing parts with
  | zero =>
    match parts, hpart with
    | first :: second :: parts, hpart =>
      obtain rfl : second = part := Option.some.inj hpart
      have hfirst : ¬ first.IsRun := fun h => (List.isChain_cons_cons.1 hsep).1 ⟨h, hrun⟩
      rw [driftBefore_cons_succ]
      exact Nat.lt_add_right _ (drift_pos_of_not_isRun hfirst)
  | succ k ih =>
    match parts, hpart with
    | first :: parts, hpart =>
      rw [driftBefore_cons_succ]
      exact Nat.lt_add_left _ (ih hsep.tail hpart)

/-- **The address has not run ahead of a run** exactly if the run is the first part. -/
lemma driftBefore_eq_zero_iff {parts : List (Part codes)} (hsep : Separated parts) {k : Nat}
    {part : Part codes} (hpart : parts[k]? = some part) (hrun : part.IsRun) :
    driftBefore parts k = 0 ↔ k = 0 := by
  constructor
  · intro hzero
    cases k with
    | zero => rfl
    | succ k => exact absurd hzero (driftBefore_pos hsep hpart hrun).ne'
  · rintro rfl
    rfl

/-- Written characters are at least as many as there are. -/
lemma length_le_length_flatMap_writtenChar (text : Bytes) :
    text.length ≤ (text.flatMap writtenChar).length := by
  induction text with
  | nil => exact le_rfl
  | cons c text ih =>
    have := List.length_pos_iff.2 (writtenChar_ne_nil c)
    rw [List.flatMap_cons, List.length_append, List.length_cons]
    omega

end Part

namespace Script

/-- How far the address is moved behind a symbol. -/
def advance : Symbol → Nat
  | .literal text => text.length
  | _ => 4

/-- The address is moved by the bytes of a part and what it runs ahead. -/
lemma advance_symbol {codes : CodeSet} (part : Part codes) :
    advance part.symbol = part.bytes.length + part.drift := by
  cases part with
  | code kind p q => cases kind <;> rfl
  | run text nonempty chars =>
    have := Part.length_le_length_flatMap_writtenChar text
    simp only [Part.symbol, advance, String.length_ofList, Part.bytes, Part.drift]
    omega

/-- What is told about a single symbol, if the address is where it stands. -/
def symbolEvents (p : Program) (offset address : Int) : Symbol → List Event
  | .literal text =>
    if (Text.integer? text).isNone then
      [.dataRef offset address .read, .makeString address text.length,
        .makeName address (String.ofList ((Text.name text).toList.take maxNameLength))]
    else []
  | .var n =>
    if registerCount ≤ n then
      match p.varAddress n with
      | .ok var => [.dataRef offset var .read]
      | .error _ => []
    else []
  | _ => []

/-- A symbol is told about, and then those behind it; or there is nowhere to look for a variable,
and nothing more is told. -/
lemma symbolRefs_cons (p : Program) (offset address : Int) (symbol : Symbol) (rest : List Symbol) :
    (∃ e, symbolRefs p offset address (symbol :: rest) = ⟨[], .error e⟩) ∨
      symbolRefs p offset address (symbol :: rest) =
        ⟨symbolEvents p offset address symbol ++
          (symbolRefs p offset (address + advance symbol) rest).events,
            (symbolRefs p offset (address + advance symbol) rest).result⟩ := by
  cases symbol with
  | literal text =>
    right
    rw [symbolRefs, symbolEvents]
    split_ifs with hnumber
    · rfl
    · rfl
  | var n =>
    rw [symbolRefs, symbolEvents]
    split_ifs with hregister
    · cases p.varAddress n with
      | error e => exact .inl ⟨e, rfl⟩
      | ok var => exact .inr rfl
    · exact .inr rfl
  | lang n => exact .inr rfl
  | shell a b => exact .inr rfl

/-- **What is told about the symbols of a string**, one after the other, up to the end or to a
variable that is nowhere to be found. The address is where a part begins, but for how far it has run
ahead.

**Proof sketch.** Induction on the parts. The address behind a part is where the next one begins,
but for how far it has run ahead with this part. -/
lemma exists_events_symbolRefs {codes : CodeSet} (p : Program) (offset address : Int)
    (parts : List (Part codes)) :
    ∃ m ≤ parts.length,
      ((symbolRefs p offset address (parts.map Part.symbol)).result = .ok () → m = parts.length) ∧
      (symbolRefs p offset address (parts.map Part.symbol)).events =
        ((parts.take m).mapIdx fun k part =>
          symbolEvents p offset
            (address + Part.start parts k + Part.driftBefore parts k) part.symbol).flatten := by
  induction parts generalizing address with
  | nil => exact ⟨0, le_rfl, fun _ => rfl, rfl⟩
  | cons part parts ih =>
    obtain ⟨m, hm, hall, hevents⟩ := ih (address + advance part.symbol)
    rw [List.map_cons]
    obtain ⟨e, herror⟩ | hnext :=
      symbolRefs_cons p offset address part.symbol (parts.map Part.symbol)
    · refine ⟨0, Nat.zero_le _, fun hok => ?_, by rw [herror]; rfl⟩
      rw [herror] at hok
      cases hok
    · refine ⟨m + 1, Nat.succ_le_succ hm, fun hok => ?_, ?_⟩
      · rw [hnext] at hok
        rw [hall hok, List.length_cons]
      · have hplaces : ∀ k : Nat,
            address + advance part.symbol + Part.start parts k + Part.driftBefore parts k =
              address + Part.start (part :: parts) (k + 1) +
                Part.driftBefore (part :: parts) (k + 1) := by
          intro k
          rw [advance_symbol, Part.start_cons_succ, Part.driftBefore_cons_succ]
          omega
        simp only [hplaces] at hevents
        rw [hnext]
        simp only [hevents, List.take_succ_cons, List.mapIdx_cons, List.flatten_cons,
          Part.start_zero, Part.driftBefore_zero, Int.natCast_zero, Int.add_zero]

/-- The first of the bytes from an address on. -/
lemma Memory.take_bytes (memory : Memory) (address : Int) {k n : Nat} (h : k ≤ n) :
    (memory.bytes address n).take k = memory.bytes address k := by
  rw [Memory.bytes, ← List.map_take, List.take_range, Nat.min_eq_left h, Memory.bytes]

/-- The symbols of a string in memory are those of the parts that stand at its address. -/
lemma exists_parts_of_symbolsAt {p : Program} {address : Int} {symbols : List Symbol}
    (h : p.symbolsAt address = .ok (some symbols)) :
    ∃ (codes : CodeSet) (parts : List (Part codes)), p.version = .text codes.version ∧
      Part.Separated parts ∧
      p.memory.bytes address (Part.written parts).length = Part.written parts ∧
        symbols = parts.map Part.symbol := by
  obtain ⟨decoded, hdecode, hsymbols⟩ := Fault.map_eq_ok.1 h
  obtain ⟨⟨_, n⟩, rfl, rfl⟩ := Option.map_eq_some_iff.1 hsymbols
  unfold Program.decodeAt at hdecode
  split at hdecode
  · rename_i data hdata
    obtain ⟨_, hread, heq⟩ := Fault.map_eq_ok.1 hdecode
    obtain rfl := Option.some.inj heq
    obtain ⟨s, -, hinside⟩ := Fault.map_eq_ok.1 hdata
    obtain ⟨-, hbytes⟩ := Option.ite_none_right_eq_some.1 hinside
    obtain rfl := Option.some.inj hbytes
    obtain ⟨codes, parts, rest, hversion, hwindow, hsep, rfl⟩ := exists_parts_of_symbolize hread
    have hlength : ∀ k, (p.memory.bytes address k).length = k := fun k => by simp [Memory.bytes]
    rw [stringWindow_zero (by rw [hlength]; exact Nat.min_le_right _ _)] at hwindow
    refine ⟨codes, parts, hversion, hsep, ?_, rfl⟩
    have hle := congrArg List.length hwindow
    rw [hlength, List.length_append] at hle
    rw [← Memory.take_bytes _ _ (hle ▸ Nat.le_add_right _ rest.length), hwindow, List.take_left]
  · cases hdecode
  · cases hdecode

/-- **Strings are named ahead of where they stand.** A literal of a string that is no number is
referred to, made a string and named where it stands, but for how far the address has run ahead. The
address has not run ahead of a literal exactly if it is the first symbol of its string. -/
theorem strings_are_named_with_drift {p : Program} {address : Int} {symbols : List Symbol}
    (offset : Int) (h : p.symbolsAt address = .ok (some symbols)) :
    ∃ (codes : CodeSet) (parts : List (Part codes)), p.version = .text codes.version ∧
      Part.Separated parts ∧
      p.memory.bytes address (Part.written parts).length = Part.written parts ∧
        symbols = parts.map Part.symbol ∧
      (∃ m ≤ parts.length, ((stringRefs p offset address).result = .ok () → m = parts.length) ∧
        (stringRefs p offset address).events =
          ((parts.take m).mapIdx fun k part =>
            symbolEvents p offset
              (address + Part.start parts k + Part.driftBefore parts k) part.symbol).flatten) ∧
      ∀ (k : Nat) (part : Part codes), parts[k]? = some part → part.IsRun →
        (Part.driftBefore parts k = 0 ↔ k = 0) := by
  obtain ⟨codes, parts, hversion, hsep, hbytes, rfl⟩ := exists_parts_of_symbolsAt h
  have hrefs : stringRefs p offset address =
      symbolRefs p offset address (parts.map Part.symbol) := by
    rw [stringRefs, h]
    rfl
  refine ⟨codes, parts, hversion, hsep, hbytes, rfl, ?_, fun k part hpart hrun => ?_⟩
  · rw [hrefs]
    exact exists_events_symbolRefs p offset address parts
  · exact Part.driftBefore_eq_zero_iff hsep hpart hrun

/-- A script that updates a text: a letter, a string of the language and two letters. -/
def driftScript : Program where
  version := .text "3"
  segments := [("ENTRIES", ⟨16, 44⟩), ("STRINGS", ⟨44, 51⟩)]
  memory := (Memory.write {} 16 (List.flatMap Bytes.ofWord [6, 0, 0, 0, 0, 0, 0])).write 44
    [0x43, 1, 5, 0x80, 0x41, 0x42, 0]
  names := []

/-- In the script, the address has drifted before the second literal. -/
theorem drift_of_driftScript :
    ∃ (codes : CodeSet) (parts : List (Part codes)),
      parts.map Part.symbol = [.literal "C", .lang 5, .literal "AB"] ∧
      driftScript.memory.bytes 44 (Part.written parts).length = Part.written parts ∧
      Part.driftBefore parts 0 = 0 ∧ Part.driftBefore parts 2 ≠ 0 := by
  have hsymbols : driftScript.symbolsAt 44 = .ok (some [.literal "C", .lang 5, .literal "AB"]) := by
    rfl
  obtain ⟨codes, parts, -, -, hbytes, hparts, -, hdrift⟩ := strings_are_named_with_drift 4 hsymbols
  refine ⟨codes, parts, hparts.symm, hbytes, rfl, fun hzero => ?_⟩
  have hlast : (parts.map Part.symbol)[2]? = some (.literal "AB") := by rw [← hparts]; rfl
  obtain ⟨part, hpart, hsymbol⟩ := Option.map_eq_some_iff.1 (List.getElem?_map.symm.trans hlast)
  cases part with
  | code kind p q => cases kind <;> cases hsymbol
  | run text nonempty chars => exact absurd ((hdrift 2 _ hpart trivial).1 hzero) (by decide)

/-- **A name one byte too far**: the two letters stand at 48, but are referred to and named at
49. -/
theorem named_past_driftScript :
    driftScript.symbolsAt 44 = .ok (some [.literal "C", .lang 5, .literal "AB"]) ∧
      driftScript.memory.bytes 44 7 = [0x43, 1, 5, 0x80] ++ [0x41, 0x42] ++ [0] ∧
      (stringRefs driftScript 4 44).events =
        [.dataRef 4 44 .read, .makeString 44 1, .makeName 44 "C",
          .dataRef 4 49 .read, .makeString 49 2, .makeName 49 "AB"] :=
  ⟨rfl, rfl, rfl⟩

end Script

end Nsis
