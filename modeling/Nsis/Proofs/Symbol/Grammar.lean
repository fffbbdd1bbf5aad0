import Mathlib.Data.List.Basic
import Nsis.Symbol.Decode

/-!
# The grammar of coded strings

A coded string is a sequence of tokens: codes with two parameters, and characters. It is closed by a
zero byte in the place of a token, or ends with the bytes that may be read.

## Main definitions

* `Nsis.Reads` — which tokens the first bytes of a byte string hold, and how many bytes they take.

## Main results

* `Nsis.tokens_eq_ok_iff` — the tokens that are read are those of the grammar.
* `Nsis.Reads.append_zero` — a string that stands alone is read in the same way when it is followed
  by a zero byte.
* `Nsis.tokens_take` — no more is read than there is room for.
* `Nsis.decodeString_eq_ok_iff` — the text of a string is that of its tokens.
-/

namespace Nsis

/-- Which tokens the first `room` bytes of a byte string hold, and how many bytes they take, the
closing zero byte included. -/
inductive Reads (codes : CodeSet) : (room : Nat) → Bytes → List Token → Nat → Prop
  /-- All bytes that may be read were read. -/
  | full (data : Bytes) : Reads codes 0 data [] 0
  /-- There are no more bytes. -/
  | empty (room : Nat) : Reads codes room [] [] 0
  /-- A zero byte closes the string. -/
  | closed (room : Nat) (rest : Bytes) : Reads codes (room + 1) (0 :: rest) [] 1
  /-- A code has two parameters of any value. -/
  | code {room n : Nat} {c : UInt8} {rest : Bytes} {ts : List Token} (p q : UInt8) (hc : c ≠ 0)
      (hcode : codes.isCode c) (h : Reads codes room rest ts n) :
      Reads codes (room + 3) (c :: p :: q :: rest) (.symbol (codes.symbol c p q) :: ts) (n + 3)
  /-- Any other byte is a character, except the one that announces a code that is none. -/
  | char {room n : Nat} {c : UInt8} {rest : Bytes} {ts : List Token} (hc : c ≠ 0)
      (hcode : ¬ codes.isCode c) (hskip : c ≠ codes.skip) (h : Reads codes room rest ts n) :
      Reads codes (room + 1) (c :: rest) (.char c :: ts) (n + 1)

/-- What is left to be read after a token decides. -/
lemma bind_tokens_eq_ok {r : Except Fault (List Token × Nat)} {t : Token} {k n : Nat}
    {ts : List Token} (h : (do let (ts, n) ← r; .ok (t :: ts, n + k)) = Except.ok (ts, n)) :
    ∃ ts' n', r = .ok (ts', n') ∧ ts = t :: ts' ∧ n = n' + k := by
  cases r with
  | error e => cases h
  | ok p =>
    cases h
    exact ⟨p.1, p.2, rfl, rfl, rfl⟩

/-- Reading follows the grammar. -/
lemma reads_of_tokens {codes : CodeSet} {room : Nat} {data : Bytes} {ts : List Token} {n : Nat}
    (h : tokens codes room data = .ok (ts, n)) : Reads codes room data ts n := by
  fun_induction tokens codes room data generalizing ts n with
  | case1 data =>
    cases h
    exact .full data
  | case2 room =>
    cases h
    exact .empty _
  | case3 room rest =>
    cases h
    exact .closed room rest
  | case4 c hc hcode room p q rest ih =>
    obtain ⟨ts', n', hrest, rfl, rfl⟩ := bind_tokens_eq_ok h
    exact .code p q hc hcode (ih hrest)
  | case5 => cases h
  | case6 => cases h
  | case7 => cases h
  | case8 room c rest hc hcode hskip ih =>
    obtain ⟨ts', n', hrest, rfl, rfl⟩ := bind_tokens_eq_ok h
    exact .char hc hcode hskip (ih hrest)

/-- What follows the grammar is read. -/
lemma tokens_of_reads {codes : CodeSet} {room : Nat} {data : Bytes} {ts : List Token} {n : Nat}
    (h : Reads codes room data ts n) : tokens codes room data = .ok (ts, n) := by
  induction h with
  | full data => rw [tokens]
  | empty room => cases room <;> rw [tokens]
  | closed room rest =>
    rw [tokens.eq_def]
    exact if_pos rfl
  | code p q hc hcode h ih =>
    rw [tokens, if_neg hc, if_pos hcode]
    simp only [ih]
    rfl
  | char hc hcode hskip h ih =>
    rw [tokens.eq_def]
    simp only [if_neg hc, if_neg hcode, if_neg hskip, ih]
    rfl

/-- **The tokens that are read are those of the grammar.** -/
theorem tokens_eq_ok_iff {codes : CodeSet} {room : Nat} {data : Bytes} {ts : List Token} {n : Nat} :
    tokens codes room data = .ok (ts, n) ↔ Reads codes room data ts n :=
  ⟨reads_of_tokens, tokens_of_reads⟩

/-- A string without zero bytes that stands alone and is not too long takes all of its bytes.
Followed by a zero byte it is read in the same way, and the zero byte with it if there is room. -/
lemma Reads.append_zero {codes : CodeSet} {room : Nat} {data : Bytes} {ts : List Token} {n : Nat}
    (h : Reads codes room data ts n) (hzero : (0 : UInt8) ∉ data) (hroom : data.length ≤ room)
    (rest : Bytes) :
    n = data.length ∧ Reads codes room (data ++ 0 :: rest) ts (if n < room then n + 1 else n) := by
  induction h with
  | full data =>
    obtain rfl : data = [] := List.eq_nil_of_length_eq_zero (Nat.le_zero.1 hroom)
    exact ⟨rfl, .full _⟩
  | empty room =>
    refine ⟨rfl, ?_⟩
    cases room with
    | zero => exact .full _
    | succ room => exact .closed room rest
  | closed room rest => exact absurd List.mem_cons_self hzero
  | @code room n c data ts p q hc hcode h ih =>
    simp only [List.mem_cons, not_or] at hzero
    simp only [List.length_cons] at hroom ⊢
    obtain ⟨hn, hreads⟩ := ih hzero.2.2.2 (by omega)
    refine ⟨by omega, ?_⟩
    have hcount : (if n + 3 < room + 3 then n + 3 + 1 else n + 3) =
        (if n < room then n + 1 else n) + 3 := by
      split_ifs <;> omega
    rw [hcount]
    exact .code p q hc hcode hreads
  | @char room n c data ts hc hcode hskip h ih =>
    simp only [List.mem_cons, not_or] at hzero
    simp only [List.length_cons] at hroom ⊢
    obtain ⟨hn, hreads⟩ := ih hzero.2 (by omega)
    refine ⟨by omega, ?_⟩
    have hcount : (if n + 1 < room + 1 then n + 1 + 1 else n + 1) =
        (if n < room then n + 1 else n) + 1 := by
      split_ifs <;> omega
    rw [hcount]
    exact .char hc hcode hskip hreads

/-- **No more is read than there is room for.** -/
lemma tokens_take (codes : CodeSet) (room : Nat) (data : Bytes) :
    tokens codes room (data.take room) = tokens codes room data := by
  fun_induction tokens codes room data with
  | case1 data => rw [tokens]
  | case2 room => rw [List.take_nil, tokens]
  | case3 room rest =>
    rw [List.take_succ_cons, tokens.eq_def]
    exact if_pos rfl
  | case4 c hc hcode room p q rest ih =>
    simp only [List.take_succ_cons, tokens, if_neg hc, if_pos hcode, ih]
  | case5 room c rest hc hcode hshort =>
    rw [List.take_succ_cons, tokens.eq_def]
    simp only [if_neg hc, if_pos hcode]
    split
    · rename_i room p q rest' htake
      rcases rest with _ | ⟨p', _ | ⟨q', rest⟩⟩
      · simp at htake
      · simp at htake
      · exact absurd rfl (hshort room p' q' rest rfl)
    · rfl
  | case6 room c rest hc hcode =>
    rw [List.take_succ_cons, tokens.eq_def]
    simp only [if_neg hc, if_neg hcode, if_true, List.take_succ_cons]
  | case7 room rest hshort hc hcode =>
    rw [List.take_succ_cons, tokens.eq_def]
    simp only [if_neg hc, if_neg hcode, if_true]
    split
    · rename_i room c rest' htake
      cases rest with
      | nil => simp at htake
      | cons c' rest => exact absurd rfl (hshort room c' rest rfl)
    · rfl
  | case8 room c rest hc hcode hskip ih =>
    rw [List.take_succ_cons, tokens.eq_def]
    simp only [if_neg hc, if_neg hcode, if_neg hskip, ih]

/-- At a place inside a block, as many bytes may be read as a string can have. -/
lemma symbolize_natCast_of_codes {version : VersionTag} {codes : CodeSet}
    (h : CodeSet.ofVersion? version = some codes) (block : Bytes) (offset : Nat) :
    symbolize block offset version = symbolsOf codes maxStringLength (block.drop offset) := by
  have hroom : stringRoom block offset = maxStringLength := by
    simp only [stringRoom, Signed.place]
    rw [if_neg (by omega), if_neg (by omega)]
    omega
  have hsuffix : Signed.suffix block offset = block.drop offset := by
    rw [Signed.suffix, Signed.place, if_neg (by omega), Int.toNat_natCast]
  rw [symbolize, h]
  simp only [hroom, hsuffix]

/-- **The text of a string is that of its tokens.** -/
lemma decodeString_eq_ok_iff {version : VersionTag} {codes : CodeSet}
    (h : CodeSet.ofVersion? version = some codes) {block : Bytes} {offset n : Nat} {text : String} :
    decodeString block offset version = .ok (text, n) ↔
      ∃ ts, Reads codes maxStringLength (block.drop offset) ts n ∧
        text = Symbol.textOf (Symbol.ofTokens ts) := by
  rw [decodeString, symbolize_natCast_of_codes h, symbolsOf]
  constructor
  · intro hok
    cases htokens : tokens codes maxStringLength (block.drop offset) with
    | error e =>
      rw [htokens] at hok
      cases hok
    | ok r =>
      rw [htokens] at hok
      cases hok
      exact ⟨r.1, tokens_eq_ok_iff.1 htokens, rfl⟩
  · rintro ⟨ts, hreads, rfl⟩
    rw [tokens_of_reads hreads]
    rfl

end Nsis
