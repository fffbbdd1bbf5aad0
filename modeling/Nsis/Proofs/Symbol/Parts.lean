import Mathlib.Data.List.Chain
import Nsis.Proofs.Symbol.Grammar

/-!
# The parts of a coded string

A coded string is a row of parts: codes with two parameters, and runs of characters. Each part has
its bytes and the symbol it stands for, and no two runs stand side by side. What is read from a
block are the parts that its bytes begin with, up to a zero byte in the place of a part. Where a
code lacks a parameter or a skip byte stands in the place of a part, nothing is read.

## Main definitions

* `Nsis.Part` — the parts of a coded string.
* `Nsis.Part.bytes`, `Nsis.Part.symbol` — how a part is stored and what it stands for.
* `Nsis.Part.Separated` — no two runs stand side by side.
* `Nsis.stringWindow` — the bytes of a block that a string can take.
* `Nsis.HasSkip`, `Nsis.HasCut` — a skip byte, or a code without its parameters, in the place of a
  part.

## Main results

* `Nsis.tokens_written` — parts are read one by one, whatever follows them.
* `Nsis.exists_parts` — every byte string begins with parts, up to what is none.
* `Nsis.symbolize_of_parts` — the symbols of a string are those of its parts.
* `Nsis.symbolize_parses_parts` — strings without skip bytes are read exactly if no code is cut off.
-/

namespace Nsis

/-! ## Bytes with a meaning -/

/-- The kinds of codes. -/
inductive CodeKind where
  | lang
  | shell
  | var
  deriving DecidableEq, Repr

/-- There are three kinds of codes. -/
lemma CodeKind.exists_iff {P : CodeKind → Prop} :
    (∃ kind, P kind) ↔ P .lang ∨ P .shell ∨ P .var := by
  constructor
  · rintro ⟨kind, h⟩
    cases kind with
    | lang => exact .inl h
    | shell => exact .inr (.inl h)
    | var => exact .inr (.inr h)
  · rintro (h | h | h)
    exacts [⟨_, h⟩, ⟨_, h⟩, ⟨_, h⟩]

namespace CodeSet

/-- The byte that introduces a code. -/
def byteOf : CodeSet → CodeKind → UInt8
  | high, .lang => 255
  | high, .shell => 254
  | high, .var => 253
  | low, .lang => 1
  | low, .shell => 2
  | low, .var => 3

/-- The four bytes that stand for no character. -/
def codeBytes : CodeSet → List UInt8
  | high => [255, 254, 253, 252]
  | low => [1, 2, 3, 4]

/-- The bytes that stand for a character. -/
def IsChar (codes : CodeSet) (c : UInt8) : Prop :=
  c ≠ 0 ∧ c ∉ codes.codeBytes

/-- Whether a byte is a character can be computed. -/
instance (codes : CodeSet) (c : UInt8) : Decidable (codes.IsChar c) :=
  inferInstanceAs (Decidable (c ≠ 0 ∧ c ∉ codes.codeBytes))

/-- The byte of a kind is a code. -/
lemma isCode_byteOf (codes : CodeSet) (kind : CodeKind) : codes.isCode (codes.byteOf kind) := by
  cases codes <;> cases kind <;> decide

/-- No code is zero. -/
lemma byteOf_ne_zero (codes : CodeSet) (kind : CodeKind) : codes.byteOf kind ≠ 0 := by
  cases codes <;> cases kind <;> decide

/-- The skip byte is not zero. -/
lemma skip_ne_zero (codes : CodeSet) : codes.skip ≠ 0 := by
  cases codes <;> decide

/-- The skip byte is no code. -/
lemma not_isCode_skip (codes : CodeSet) : ¬ codes.isCode codes.skip := by
  cases codes <;> decide

/-- The bytes beyond the skip byte introduce codes. -/
lemma isCode_iff {codes : CodeSet} {c : UInt8} (hc : c ≠ 0) :
    codes.isCode c ↔ ∃ kind, c = codes.byteOf kind := by
  have hlt := c.toNat_lt
  rw [CodeKind.exists_iff]
  cases codes <;> simp only [isCode, skip, byteOf, decide_eq_true_eq, ne_eq, UInt8.lt_iff_toNat_lt,
    ← UInt8.toNat_inj, UInt8.reduceToNat] at hc ⊢ <;> omega

/-- The code bytes are those that introduce codes, and the skip byte. -/
lemma mem_codeBytes {codes : CodeSet} {c : UInt8} :
    c ∈ codes.codeBytes ↔ (∃ kind, c = codes.byteOf kind) ∨ c = codes.skip := by
  rw [CodeKind.exists_iff]
  cases codes <;> simp only [codeBytes, skip, byteOf, List.mem_cons, List.not_mem_nil, or_false,
    or_assoc]

/-- Characters are the bytes that are not zero, no code and no skip byte. -/
lemma isChar_iff {codes : CodeSet} {c : UInt8} :
    codes.IsChar c ↔ c ≠ 0 ∧ ¬ codes.isCode c ∧ c ≠ codes.skip := by
  unfold IsChar
  refine and_congr_right fun hc => ?_
  rw [mem_codeBytes, isCode_iff hc, not_or]

end CodeSet

/-- The characters that are written after a dollar sign, and how they are written. -/
def dollarForms : List (UInt8 × String) :=
  [(9, "$\\t"), (10, "$\\n"), (13, "$\\r"), (34, "$\\\""), (36, "$$")]

/-- How a character is written: as itself, unless it has another form. -/
def writtenChar (c : UInt8) : List Char :=
  ((dollarForms.lookup c).map String.toList).getD [Char.ofNat c.toNat]

/-- A character is escaped as it is written. -/
lemma escaped_eq_writtenChar (c : UInt8) : escaped c = writtenChar c := by
  unfold escaped
  split
  · rfl
  · rfl
  · rfl
  · rfl
  · rfl
  · rename_i h9 h10 h13 h34 h36
    have hlookup : dollarForms.lookup c = none := by
      rw [List.lookup_eq_none_iff]
      simpa [dollarForms] using ⟨h9, h10, h13, h34, h36⟩
    rw [writtenChar, hlookup]
    rfl

/-- Every character is written. -/
lemma writtenChar_ne_nil (c : UInt8) : writtenChar c ≠ [] := by
  rw [← escaped_eq_writtenChar]
  unfold escaped
  split <;> simp

/-! ## Parts -/

/-- A part of a coded string. -/
inductive Part (codes : CodeSet) where
  /-- A code with two parameters of any value. -/
  | code (kind : CodeKind) (p q : UInt8)
  /-- Characters in a row. -/
  | run (text : Bytes) (nonempty : text ≠ []) (chars : ∀ c ∈ text, codes.IsChar c)

namespace Part

variable {codes : CodeSet}

/-- Whether a part is a run of characters. -/
def IsRun : Part codes → Prop
  | code _ _ _ => False
  | run _ _ _ => True

/-- How a part is stored. -/
def bytes : Part codes → Bytes
  | code kind p q => [codes.byteOf kind, p, q]
  | run text _ _ => text

/-- The number of fourteen bits in two parameters. -/
def number (p q : UInt8) : Nat :=
  p.toNat % 128 + 128 * (q.toNat % 128)

/-- What a part stands for. -/
def symbol : Part codes → Symbol
  | code .lang p q => .lang (number p q)
  | code .shell p q => .shell p.toNat q.toNat
  | code .var p q => .var (number p q)
  | run text _ _ => .literal (String.ofList (text.flatMap writtenChar))

/-- How a row of parts is stored. -/
def written (parts : List (Part codes)) : Bytes :=
  parts.flatMap bytes

/-- No two runs stand side by side. -/
def Separated (parts : List (Part codes)) : Prop :=
  parts.IsChain fun a b => ¬ (a.IsRun ∧ b.IsRun)

/-- No parts have no bytes. -/
@[simp] lemma written_nil : written ([] : List (Part codes)) = [] := rfl

/-- The bytes of a part come before those of the parts behind it. -/
@[simp] lemma written_cons (part : Part codes) (parts : List (Part codes)) :
    written (part :: parts) = part.bytes ++ written parts := rfl

/-- The tokens of a part. -/
def tokens : Part codes → List Token
  | code kind p q => [.symbol (codes.symbol (codes.byteOf kind) p q)]
  | run text _ _ => text.map .char

/-- A code is one symbol. -/
lemma symbol_byteOf (kind : CodeKind) (p q : UInt8) :
    codes.symbol (codes.byteOf kind) p q = (code kind p q : Part codes).symbol := by
  have hnumber : (p &&& 0x7f).toNat + 128 * (q &&& 0x7f).toNat = number p q := by
    have hmask : ∀ b : UInt8, (b &&& 0x7f).toNat = b.toNat % 128 := fun b => by
      rw [UInt8.toNat_and]
      exact Nat.and_two_pow_sub_one_eq_mod b.toNat 7
    rw [hmask, hmask, number]
  unfold CodeSet.symbol
  rw [hnumber]
  cases codes <;> cases kind <;> rfl

/-! ### The symbols of parts -/

/-- Characters before other tokens are written before the first run. -/
lemma runs_chars_append (text : Bytes) (ts : List Token) :
    Symbol.runs (text.map .char ++ ts) =
      (text.flatMap writtenChar ++ (Symbol.runs ts).1, (Symbol.runs ts).2) := by
  induction text with
  | nil => rfl
  | cons c text ih =>
    rw [List.map_cons, List.cons_append, Symbol.runs, ih, List.flatMap_cons, List.append_assoc,
      escaped_eq_writtenChar]

/-- Written characters are one literal. -/
lemma ofText_flatMap_writtenChar {text : Bytes} (h : text ≠ []) :
    Symbol.ofText (text.flatMap writtenChar) =
      [.literal (String.ofList (text.flatMap writtenChar))] := by
  refine if_neg fun hempty => ?_
  obtain ⟨c, text, rfl⟩ := List.exists_cons_of_ne_nil h
  rw [List.isEmpty_iff, List.flatMap_cons, List.append_eq_nil_iff] at hempty
  exact writtenChar_ne_nil c hempty.1

/-- No text stands before the symbols of parts that begin with a code. -/
lemma fst_runs_of_not_isRun {parts : List (Part codes)} (h : ∀ part ∈ parts.head?, ¬ part.IsRun) :
    (Symbol.runs (parts.flatMap tokens)).1 = [] := by
  cases parts with
  | nil => rfl
  | cons part parts =>
    cases part with
    | code kind p q => rfl
    | run text nonempty chars => exact absurd trivial (h _ rfl)

/-- **Parts stand for one symbol each** if no two runs stand side by side. -/
lemma ofTokens_flatMap_tokens {parts : List (Part codes)} (h : Separated parts) :
    Symbol.ofTokens (parts.flatMap tokens) = parts.map symbol := by
  induction parts with
  | nil => rfl
  | cons part parts ih =>
    obtain ⟨hhead, htail⟩ := List.isChain_cons.1 h
    have hrest := ih htail
    simp only [Symbol.ofTokens] at hrest ⊢
    cases part with
    | code kind p q =>
      simp only [List.flatMap_cons, tokens, List.singleton_append, Symbol.runs, hrest,
        symbol_byteOf, List.map_cons]
      rfl
    | run text nonempty chars =>
      -- the run ends where the next part begins, which is a code
      have hcode := fst_runs_of_not_isRun fun next hnext hrun => hhead next hnext ⟨trivial, hrun⟩
      rw [hcode] at hrest
      simp only [List.flatMap_cons, tokens, runs_chars_append, hcode, List.append_nil,
        ofText_flatMap_writtenChar nonempty, List.map_cons, ← hrest]
      rfl

end Part

/-! ## Reading parts -/

/-- What was read, with the tokens before it and the bytes they took. -/
def Token.before (ts : List Token) (n : Nat) (r : List Token × Nat) : List Token × Nat :=
  (ts ++ r.1, r.2 + n)

/-- Tokens put before twice are put before at once. -/
lemma Token.map_before_map_before (r : Except Fault (List Token × Nat)) (ts us : List Token)
    (n m : Nat) : (r.map (before us m)).map (before ts n) = r.map (before (ts ++ us) (m + n)) := by
  cases r with
  | error e => rfl
  | ok r => simp only [Except.map, before, List.append_assoc, Nat.add_assoc]

section Reading

variable {codes : CodeSet}

/-- A character is read as a token. -/
lemma tokens_char {c : UInt8} (h : codes.IsChar c) (room : Nat) (rest : Bytes) :
    tokens codes (room + 1) (c :: rest) =
      (tokens codes room rest).map (Token.before [.char c] 1) := by
  obtain ⟨hzero, hcode, hskip⟩ := CodeSet.isChar_iff.1 h
  rw [tokens.eq_def]
  simp only [if_neg hzero, if_neg hcode, if_neg hskip]
  cases tokens codes room rest with
  | error e => rfl
  | ok r => rfl

/-- Characters are read as tokens, one by one. -/
lemma tokens_chars {text : Bytes} (h : ∀ c ∈ text, codes.IsChar c) (room : Nat) (rest : Bytes) :
    tokens codes (room + text.length) (text ++ rest) =
      (tokens codes room rest).map (Token.before (text.map .char) text.length) := by
  induction text with
  | nil =>
    cases hrest : tokens codes room rest with
    | error e => simp [hrest, Except.map]
    | ok r => simp [hrest, Except.map, Token.before]
  | cons c text ih =>
    rw [List.forall_mem_cons] at h
    rw [List.length_cons, ← Nat.add_assoc, List.cons_append, tokens_char h.1, ih h.2,
      Token.map_before_map_before]
    rfl

/-- A code with its two parameters is read as its symbol. -/
lemma tokens_code (kind : CodeKind) (p q : UInt8) (room : Nat) (rest : Bytes) :
    tokens codes (room + 3) (codes.byteOf kind :: p :: q :: rest) =
      (tokens codes room rest).map
        (Token.before [.symbol (codes.symbol (codes.byteOf kind) p q)] 3) := by
  rw [tokens, if_neg (codes.byteOf_ne_zero kind), if_pos (codes.isCode_byteOf kind)]
  cases tokens codes room rest with
  | error e => rfl
  | ok r => rfl

/-- The bytes of a part are read as its tokens. -/
lemma tokens_part (part : Part codes) (room : Nat) (rest : Bytes) :
    tokens codes (room + part.bytes.length) (part.bytes ++ rest) =
      (tokens codes room rest).map (Token.before part.tokens part.bytes.length) := by
  cases part with
  | code kind p q => exact tokens_code kind p q room rest
  | run text nonempty chars => exact tokens_chars chars room rest

/-- **Parts are read one by one**, whatever follows them. -/
theorem tokens_written (parts : List (Part codes)) (room : Nat) (rest : Bytes) :
    tokens codes (room + (Part.written parts).length) (Part.written parts ++ rest) =
      (tokens codes room rest).map
        (Token.before (parts.flatMap Part.tokens) (Part.written parts).length) := by
  induction parts with
  | nil => exact tokens_chars (List.forall_mem_nil codes.IsChar) room rest
  | cons part parts ih =>
    rw [Part.written_cons, List.length_append, Nat.add_comm part.bytes.length, ← Nat.add_assoc,
      List.append_assoc, tokens_part, ih, Token.map_before_map_before]
    rfl

/-! ### Where parts end -/

/-- What follows the parts that a byte string begins with: nothing, a zero byte, a code that lacks a
parameter, or a skip byte. -/
inductive Stops (codes : CodeSet) : Bytes → Prop
  | nil : Stops codes []
  | zero (rest : Bytes) : Stops codes (0 :: rest)
  | cut (kind : CodeKind) {rest : Bytes} (h : rest.length < 2) :
      Stops codes (codes.byteOf kind :: rest)
  | skip (rest : Bytes) : Stops codes (codes.skip :: rest)

/-- Without bytes, there are no tokens. -/
lemma tokens_nil (room : Nat) : tokens codes room [] = .ok ([], 0) := by
  cases room with
  | zero => rfl
  | succ room => rfl

/-- A zero byte ends the tokens, and is taken. -/
lemma tokens_zero (room : Nat) (rest : Bytes) :
    tokens codes (room + 1) (0 :: rest) = .ok ([], 1) := by
  rw [tokens.eq_def]
  exact if_pos rfl

/-- A code that lacks a parameter is a fault. -/
lemma tokens_cut (kind : CodeKind) {rest : Bytes} (h : rest.length < 2) (room : Nat) :
    tokens codes (room + 1) (codes.byteOf kind :: rest) = .error .byteRange := by
  rw [tokens.eq_def]
  simp only [if_neg (codes.byteOf_ne_zero kind), if_pos (codes.isCode_byteOf kind)]
  split
  · simp only [List.length_cons] at h
    omega
  · rfl

/-- A skip byte with something behind it is a fault. -/
lemma tokens_skip_cons (c : UInt8) (room : Nat) (rest : Bytes) :
    tokens codes (room + 2) (codes.skip :: c :: rest) = .error (.notText .number) := by
  rw [tokens.eq_def]
  simp only [if_neg codes.skip_ne_zero, if_neg codes.not_isCode_skip, if_pos]

/-- A skip byte at the end is a fault. -/
lemma tokens_skip_nil (room : Nat) : tokens codes (room + 1) [codes.skip] = .error .byteRange := by
  rw [tokens.eq_def]
  simp only [if_neg codes.skip_ne_zero, if_neg codes.not_isCode_skip, if_pos]

/-- A character before parts begins the run they begin with, or is a run of its own. -/
lemma Part.exists_written_char {c : UInt8} (hc : codes.IsChar c) {parts : List (Part codes)}
    (h : Separated parts) :
    ∃ parts' : List (Part codes), Separated parts' ∧ written parts' = c :: written parts := by
  have hsingle : ∀ d ∈ [c], codes.IsChar d := fun d hd => List.mem_singleton.1 hd ▸ hc
  match parts, h with
  | [], _ => exact ⟨[.run [c] (List.cons_ne_nil _ _) hsingle], List.isChain_singleton _, rfl⟩
  | .code kind p q :: parts, h =>
    refine ⟨.run [c] (List.cons_ne_nil _ _) hsingle :: .code kind p q :: parts, ?_, rfl⟩
    exact List.isChain_cons_cons.2 ⟨fun hruns => hruns.2, h⟩
  | .run text nonempty chars :: parts, h =>
    refine ⟨.run (c :: text) (List.cons_ne_nil _ _) (List.forall_mem_cons.2 ⟨hc, chars⟩) :: parts,
      ?_, rfl⟩
    obtain ⟨hhead, htail⟩ := List.isChain_cons.1 h
    exact List.isChain_cons.2 ⟨fun next hnext hruns => hhead next hnext ⟨trivial, hruns.2⟩, htail⟩

/-- **Every byte string begins with parts**, up to a place where no part begins.

**Proof sketch.** Induction on the length: the first byte ends the parts, introduces a code whose
parameters are there, or is a character, which is added to the parts behind it. -/
theorem exists_parts (codes : CodeSet) (data : Bytes) :
    ∃ (parts : List (Part codes)) (rest : Bytes),
      Part.Separated parts ∧ data = Part.written parts ++ rest ∧ Stops codes rest := by
  obtain ⟨n, hn⟩ : ∃ n, data.length ≤ n := ⟨_, le_rfl⟩
  induction n generalizing data with
  | zero =>
    obtain rfl : data = [] := List.eq_nil_of_length_eq_zero (Nat.le_zero.1 hn)
    exact ⟨[], [], List.isChain_nil, rfl, .nil⟩
  | succ n ih =>
    cases data with
    | nil => exact ⟨[], [], List.isChain_nil, rfl, .nil⟩
    | cons c data =>
      rw [List.length_cons] at hn
      by_cases hzero : c = 0
      · exact ⟨[], _, List.isChain_nil, rfl, hzero ▸ .zero data⟩
      by_cases hmem : c ∈ codes.codeBytes
      · obtain ⟨kind, rfl⟩ | rfl := CodeSet.mem_codeBytes.1 hmem
        · match data with
          | [] => exact ⟨[], _, List.isChain_nil, rfl, .cut kind (by decide)⟩
          | [p] => exact ⟨[], _, List.isChain_nil, rfl, .cut kind (by simp)⟩
          | p :: q :: data =>
            simp only [List.length_cons] at hn
            obtain ⟨parts, rest, hsep, rfl, hstops⟩ := ih data (by omega)
            refine ⟨.code kind p q :: parts, rest, ?_, rfl, hstops⟩
            exact List.isChain_cons.2 ⟨fun next _ hruns => hruns.1, hsep⟩
        · exact ⟨[], _, List.isChain_nil, rfl, .skip data⟩
      · obtain ⟨parts, rest, hsep, rfl, hstops⟩ := ih data (by omega)
        obtain ⟨parts', hsep', hwritten⟩ := Part.exists_written_char ⟨hzero, hmem⟩ hsep
        exact ⟨parts', rest, hsep', by rw [hwritten, List.cons_append], hstops⟩

end Reading

/-! ## Strings of a block -/

/-- The bytes of a block that a string at `offset` can take. -/
def stringWindow (block : Bytes) (offset : Int) : Bytes :=
  Signed.slice block offset (offset + 1024)

/-- A string takes at most 1024 bytes. -/
lemma length_stringWindow_le (block : Bytes) (offset : Int) :
    (stringWindow block offset).length ≤ 1024 := by
  refine (List.length_take_le _ _).trans ?_
  simp only [Signed.place]
  split_ifs <;> omega

/-- A short block is read as a whole. -/
lemma stringWindow_zero {block : Bytes} (h : block.length ≤ 1024) :
    stringWindow block 0 = block := by
  rw [stringWindow, show (0 : Int) + 1024 = (1024 : Nat) from rfl,
    show (0 : Int) = (0 : Nat) from rfl, Signed.slice_natCast]
  exact List.take_of_length_le h

/-- A skip byte stands in the place of a part. -/
def HasSkip (codes : CodeSet) (data : Bytes) : Prop :=
  ∃ (parts : List (Part codes)) (rest : Bytes), data = Part.written parts ++ codes.skip :: rest

/-- A code in the place of a part lacks a parameter. -/
def HasCut (codes : CodeSet) (data : Bytes) : Prop :=
  ∃ (parts : List (Part codes)) (kind : CodeKind) (rest : Bytes),
    data = Part.written parts ++ codes.byteOf kind :: rest ∧ rest.length < 2

section Strings

variable {codes : CodeSet} {block : Bytes} {offset : Int} {parts : List (Part codes)}
    {rest closing behind : Bytes}

/-- A string is read from its window alone, and parts first. -/
lemma symbolize_of_window (h : stringWindow block offset = Part.written parts ++ rest) :
    ∃ room, rest.length ≤ room ∧ symbolize block offset (.text codes.version) =
      (tokens codes room rest).map fun r =>
        (Symbol.ofTokens (parts.flatMap Part.tokens ++ r.1),
          r.2 + (Part.written parts).length) := by
  have hcodes : CodeSet.ofVersion? (.text codes.version) = some codes := by
    cases codes <;> rfl
  have hwindow : (Signed.suffix block offset).take (stringRoom block offset) =
      Part.written parts ++ rest := h
  have hlength : (Part.written parts ++ rest).length ≤ stringRoom block offset :=
    hwindow ▸ List.length_take_le _ _
  rw [List.length_append] at hlength
  obtain ⟨room, hroom⟩ :=
    Nat.exists_eq_add_of_le (show (Part.written parts).length ≤ stringRoom block offset by omega)
  refine ⟨room, by omega, ?_⟩
  rw [symbolize, hcodes]
  simp only [symbolsOf]
  rw [← tokens_take, hwindow, hroom, Nat.add_comm, tokens_written]
  cases tokens codes room rest with
  | error e => rfl
  | ok r => rfl

/-- How the parts of a string end: with a zero byte, or with the last byte that the string can
take. -/
def Closes (closing behind : Bytes) : Prop :=
  closing = [0] ∨ closing = [] ∧ behind = []

/-- **The symbols of a string are those of its parts.** -/
theorem symbolize_of_parts (hsep : Part.Separated parts)
    (h : stringWindow block offset = Part.written parts ++ (closing ++ behind))
    (hcloses : Closes closing behind) :
    symbolize block offset (.text codes.version) =
      .ok (parts.map Part.symbol, (Part.written parts).length + closing.length) := by
  obtain ⟨room, hroom, hread⟩ := symbolize_of_window h
  have htokens : tokens codes room (closing ++ behind) = .ok ([], closing.length) := by
    rcases hcloses with rfl | ⟨rfl, rfl⟩
    · obtain ⟨room, rfl⟩ := Nat.exists_eq_add_of_lt (show 0 < room from hroom.trans_lt' (by simp))
      rw [Nat.zero_add]
      exact tokens_zero room behind
    · exact tokens_nil room
  rw [hread, htokens]
  simp only [Except.map, List.append_nil, Part.ofTokens_flatMap_tokens hsep, Nat.add_comm]

/-- What stands behind the zero byte of a string has no say in it. -/
lemma symbolize_of_take_eq (hsep : Part.Separated parts) (hcloses : Closes closing behind)
    (h : (stringWindow block offset).take ((Part.written parts).length + closing.length) =
      Part.written parts ++ closing)
    (hlength : closing = [] →
      (stringWindow block offset).length = (Part.written parts).length + closing.length) :
    symbolize block offset (.text codes.version) =
      .ok (parts.map Part.symbol, (Part.written parts).length + closing.length) := by
  have hwindow : stringWindow block offset = Part.written parts ++
      (closing ++ (stringWindow block offset).drop
        ((Part.written parts).length + closing.length)) := by
    rw [← List.append_assoc, ← h, List.take_append_drop]
  refine symbolize_of_parts hsep hwindow ?_
  rcases hcloses with rfl | ⟨rfl, -⟩
  · exact .inl rfl
  · exact .inr ⟨rfl, List.drop_of_length_le (hlength rfl).le⟩

/-- A string in which a code is cut off is not read. -/
lemma HasCut.symbolize_eq (h : HasCut codes (stringWindow block offset)) :
    symbolize block offset (.text codes.version) = .error .byteRange := by
  obtain ⟨parts, kind, rest, hwindow, hshort⟩ := h
  obtain ⟨room, hroom, hread⟩ := symbolize_of_window hwindow
  obtain ⟨room, rfl⟩ := Nat.exists_eq_add_of_lt (show 0 < room from hroom.trans_lt' (by simp))
  rw [hread, Nat.zero_add, tokens_cut kind hshort]
  rfl

/-- The byte behind a skip byte is taken for a text, which it is not. -/
lemma symbolize_of_skip {c : UInt8}
    (h : stringWindow block offset = Part.written parts ++ codes.skip :: c :: rest) :
    symbolize block offset (.text codes.version) = .error (.notText .number) := by
  obtain ⟨room, hroom, hread⟩ := symbolize_of_window h
  rw [hread]
  match room, hroom with
  | room + 2, _ =>
    rw [tokens_skip_cons]
    rfl

/-- A string with a skip byte in the place of a part is not read. -/
lemma HasSkip.exists_symbolize_eq (h : HasSkip codes (stringWindow block offset)) :
    ∃ e, symbolize block offset (.text codes.version) = .error e := by
  obtain ⟨parts, rest, hwindow⟩ := h
  cases rest with
  | cons c rest => exact ⟨_, symbolize_of_skip hwindow⟩
  | nil =>
    obtain ⟨room, hroom, hread⟩ := symbolize_of_window hwindow
    obtain ⟨room, rfl⟩ := Nat.exists_eq_add_of_lt (show 0 < room from hroom)
    rw [hread, Nat.zero_add, tokens_skip_nil]
    exact ⟨_, rfl⟩

/-- What follows the parts of a string closes it, unless a code is cut off or a skip byte stands
there. -/
lemma Stops.closes (h : Stops codes rest)
    (hwindow : stringWindow block offset = Part.written parts ++ rest) :
    HasCut codes (stringWindow block offset) ∨ HasSkip codes (stringWindow block offset) ∨
      ∃ closing behind, rest = closing ++ behind ∧ Closes closing behind := by
  cases h with
  | nil => exact .inr (.inr ⟨[], [], rfl, .inr ⟨rfl, rfl⟩⟩)
  | zero rest => exact .inr (.inr ⟨[0], rest, rfl, .inl rfl⟩)
  | cut kind hshort => exact .inl ⟨parts, kind, _, hwindow, hshort⟩
  | skip rest => exact .inr (.inl ⟨parts, rest, hwindow⟩)

/-- A string that is read consists of parts. -/
lemma exists_parts_of_symbolize {version : VersionTag} {symbols : List Symbol} {n : Nat}
    (h : symbolize block offset version = .ok (symbols, n)) :
    ∃ (codes : CodeSet) (parts : List (Part codes)) (rest : Bytes), version = .text codes.version ∧
      stringWindow block offset = Part.written parts ++ rest ∧ Part.Separated parts ∧
      symbols = parts.map Part.symbol := by
  obtain ⟨codes, rfl⟩ : ∃ codes : CodeSet, version = .text codes.version := by
    unfold symbolize at h
    split at h
    · rename_i codes hcodes
      unfold CodeSet.ofVersion? at hcodes
      split at hcodes
      · exact ⟨.low, rfl⟩
      · exact ⟨.high, rfl⟩
      · cases hcodes
    · cases h
  obtain ⟨parts, rest, hsep, hwindow, hstops⟩ := exists_parts codes (stringWindow block offset)
  refine ⟨codes, parts, rest, rfl, hwindow, hsep, ?_⟩
  obtain hcut | hskip | ⟨closing, behind, rfl, hcloses⟩ := hstops.closes hwindow
  · rw [hcut.symbolize_eq] at h
    cases h
  · obtain ⟨e, he⟩ := hskip.exists_symbolize_eq
    rw [he] at h
    cases h
  · rw [symbolize_of_parts hsep hwindow hcloses] at h
    cases h
    rfl

/-- **What is read of a string without skip bytes.** It is not read exactly if one of its codes
lacks a parameter. Otherwise it consists of parts, up to the zero byte behind them or the end of
what a string can take. Each part stands for one symbol, and nothing behind the parts and the zero
byte has a say in it. -/
theorem symbolize_parses_parts (codes : CodeSet) (block : Bytes) (offset : Int)
    (hskip : ¬ HasSkip codes (stringWindow block offset)) :
    (∀ e, symbolize block offset (.text codes.version) = .error e ↔
      e = .byteRange ∧ HasCut codes (stringWindow block offset)) ∧
    (¬ HasCut codes (stringWindow block offset) →
      ∃ (parts : List (Part codes)) (closing behind : Bytes) (n : Nat),
        stringWindow block offset = Part.written parts ++ (closing ++ behind) ∧
        (closing = [0] ∨ closing = [] ∧ behind = []) ∧ Part.Separated parts ∧
        symbolize block offset (.text codes.version) = .ok (parts.map Part.symbol, n) ∧
        n = (Part.written parts).length + closing.length ∧
        n ≤ (stringWindow block offset).length ∧ (stringWindow block offset).length ≤ 1024 ∧
        ∀ (block' : Bytes) (offset' : Int),
          (stringWindow block' offset').take n = (stringWindow block offset).take n →
          (closing = [] → (stringWindow block' offset').length = n) →
          symbolize block' offset' (.text codes.version) = .ok (parts.map Part.symbol, n)) := by
  obtain ⟨parts, rest, hsep, hwindow, hstops⟩ := exists_parts codes (stringWindow block offset)
  have hend := (hstops.closes hwindow).imp_right fun h => h.resolve_left hskip
  refine ⟨fun e => ⟨fun herror => ?_, ?_⟩, fun hcut => ?_⟩
  · obtain hcut | ⟨closing, behind, rfl, hcloses⟩ := hend
    · rw [hcut.symbolize_eq] at herror
      exact ⟨(Except.error.inj herror).symm, hcut⟩
    · rw [symbolize_of_parts hsep hwindow hcloses] at herror
      cases herror
  · rintro ⟨rfl, hcut⟩
    exact hcut.symbolize_eq
  · obtain ⟨closing, behind, rfl, hcloses⟩ := hend.resolve_left hcut
    have htake : (stringWindow block offset).take ((Part.written parts).length + closing.length) =
        Part.written parts ++ closing := by
      rw [hwindow, ← List.append_assoc, ← List.length_append, List.take_left]
    refine ⟨parts, closing, behind, _, hwindow, hcloses, hsep,
      symbolize_of_parts hsep hwindow hcloses, rfl, ?_, length_stringWindow_le block offset,
      fun block' offset' hsame hlength => ?_⟩
    · rw [hwindow, List.length_append, List.length_append]
      omega
    · exact symbolize_of_take_eq hsep hcloses (hsame.trans htake) hlength

/-- A string with low codes between two skip bytes that do not belong to it. Zero bytes are
parameters in it, and it is closed by one. -/
theorem symbolize_parses_parts_of_mixed :
    let block : Bytes := [4, 3, 0x95, 0x80, 0x24, 0x41, 1, 0, 0, 0, 4, 1]
    ¬ HasSkip .low (stringWindow block (-11)) ∧ ¬ HasCut .low (stringWindow block (-11)) ∧
      ∃ parts : List (Part .low), Part.Separated parts ∧
        parts.map Part.symbol = [.var 21, .literal "$$A", .lang 0] ∧
        Part.written parts = [3, 0x95, 0x80, 0x24, 0x41, 1, 0, 0] ∧
        symbolize [3, 0x95, 0x80, 0x24, 0x41, 1, 0, 0, 0] 0 (.text "3") =
          .ok (parts.map Part.symbol, 9) := by
  intro block
  have hread : symbolize block (-11) (.text "3") = .ok ([.var 21, .literal "$$A", .lang 0], 9) := by
    rfl
  have hskip : ¬ HasSkip .low (stringWindow block (-11)) := fun h => by
    obtain ⟨e, he⟩ := h.exists_symbolize_eq
    exact absurd (hread.symm.trans he) (by simp)
  have hcut : ¬ HasCut .low (stringWindow block (-11)) := fun h =>
    absurd (hread.symm.trans h.symbolize_eq) (by simp)
  obtain ⟨parts, closing, behind, n, hwindow, hcloses, hsep, hok, hn, -, -, hlocal⟩ :=
    (symbolize_parses_parts .low block (-11) hskip).2 hcut
  obtain ⟨hsymbols, rfl⟩ := Prod.mk.inj (Except.ok.inj (hread.symm.trans hok))
  obtain rfl | ⟨rfl, rfl⟩ := hcloses
  · have hlength : (Part.written parts).length = 8 := (Nat.succ.inj hn).symm
    refine ⟨hskip, hcut, parts, hsep, hsymbols.symm, ?_, hlocal _ _ (by decide) (by simp)⟩
    calc Part.written parts
        = (stringWindow block (-11)).take 8 := by rw [hwindow, ← hlength, List.take_left]
      _ = [3, 0x95, 0x80, 0x24, 0x41, 1, 0, 0] := by decide
  · have hlength := congrArg List.length hwindow
    rw [List.append_nil, List.append_nil,
      show (Part.written parts).length = 9 from hn.symm] at hlength
    exact absurd hlength (by decide)

end Strings

end Nsis
