import Mathlib.Data.List.Basic
import Mathlib.Tactic.IntervalCases
import Nsis.Proofs.Symbol.Grammar

/-!
# The text of a string determines its symbols

The text of a string is made of the texts of its tokens, one after the other, with nothing between
them. Still the tokens can be told from it: a dollar sign begins a symbol or an escaped character,
what follows it says which one, and every number in it is closed by a character that is no digit. So
a token can be taken off the front of a text, whatever comes behind it.

## Main definitions

* `Nsis.Token.chars` — how a token is written.
* `Nsis.Token.Coded` — the tokens that a coded string can hold.
* `Nsis.Token.read?` — taking a token off a text.

## Main results

* `Nsis.Token.read?_chars_append` — a token is read again, whatever follows.
* `Nsis.toList_textOf_ofTokens` — the text of symbols is that of the tokens they were made of.
* `Nsis.symbols_eq_of_text_eq` — equal texts come from equal symbols.
-/

namespace Nsis

namespace Token

/-- How a token is written. -/
def chars : Token → List Char
  | symbol s => s.text.toList
  | char c => escaped c

/-- The tokens that a coded string can hold. Codes have no signs, and none of them stands for a
literal. -/
def Coded : Token → Prop
  | char _ => True
  | symbol (.var n) => 0 ≤ n
  | symbol (.lang n) => 0 ≤ n
  | symbol (.shell a b) => 0 ≤ a ∧ 0 ≤ b
  | symbol (.literal _) => False

/-! ## Reading a token -/

/-- Take a number off a text, together with the words around it. -/
def number? (before after : String) (cs : List Char) : Option (Nat × List Char) := do
  let cs ← cs.dropPrefix? before.toList
  let rest ← (cs.dropWhile Char.isDigit).dropPrefix? after.toList
  some (Nat.ofDigitChars 10 (cs.takeWhile Char.isDigit) 0, rest)

/-- Take the name of a variable off a text. -/
def named? (cs : List Char) : Option (Token × List Char) :=
  systemVariables.findSome? fun v => (cs.dropPrefix? v.2.toList).map fun cs =>
    (symbol (.var v.1), cs)

/-- Take one digit off a text: the number of a register, counted from the register `first`. -/
def register? (first : Nat) : List Char → Option (Token × List Char)
  | c :: cs =>
    if c.isDigit then some (symbol (.var (first + Nat.ofDigitChars 10 [c] 0 : Nat)), cs) else none
  | [] => none

/-- Take a token off a text, behind its dollar sign. -/
def afterDollar? : List Char → Option (Token × List Char)
  | '$' :: cs => some (char 0x24, cs)
  | '\\' :: 't' :: cs => some (char 0x09, cs)
  | '\\' :: 'n' :: cs => some (char 0x0a, cs)
  | '\\' :: 'r' :: cs => some (char 0x0d, cs)
  | '\\' :: '"' :: cs => some (char 0x22, cs)
  | '(' :: cs => (number? "LangString" ")" cs).map fun (n, cs) => (symbol (.lang n), cs)
  | '_' :: '_' :: 'v' :: cs => (number? "ar" "__" cs).map fun (n, cs) => (symbol (.var n), cs)
  | '_' :: '_' :: 'S' :: cs => do
    let (a, cs) ← number? "HELL_" "_" cs
    let (b, cs) ← number? "" "__" cs
    some (symbol (.shell a b), cs)
  | 'R' :: cs => register? 10 cs
  | cs => (named? cs).or (register? 0 cs)

/-- Take a token off a text. -/
def read? : List Char → Option (Token × List Char)
  | [] => none
  | c :: cs => if c = '$' then afterDollar? cs else some (char (UInt8.ofNat c.toNat), cs)

/-- A number is read up to the word that closes it, which begins with no digit. -/
lemma number?_append (before after : String) (n : Nat) (rest : List Char)
    (hafter : ∃ c word, after.toList = c :: word ∧ c.isDigit = false) :
    number? before after (before.toList ++ (Text.digits 10 n ++ (after.toList ++ rest))) =
      some (n, rest) := by
  obtain ⟨c, word, hword, hc⟩ := hafter
  have hdigits : ∀ d ∈ Text.digits 10 n, d.isDigit = true := fun d hd =>
    Nat.isDigit_of_mem_toDigits (by decide) (by decide) hd
  have htake : (Text.digits 10 n ++ (after.toList ++ rest)).takeWhile Char.isDigit =
      Text.digits 10 n := by
    rw [List.takeWhile_append_of_pos hdigits, hword, List.cons_append, List.takeWhile_cons, hc]
    simp
  have hdrop : (Text.digits 10 n ++ (after.toList ++ rest)).dropWhile Char.isDigit =
      after.toList ++ rest := by
    rw [List.dropWhile_append_of_pos hdigits, hword, List.cons_append, List.dropWhile_cons, hc]
    simp
  rw [number?, List.dropPrefix?_append_of_beq _ BEq.rfl, Option.bind_eq_bind,
    Option.bind_some, hdrop, List.dropPrefix?_append_of_beq _ BEq.rfl, Option.bind_some, htake,
    Text.digits,
    Nat.ofDigitChars_toDigits (by decide) (by decide)]

/-- A decimal numeral consists of its digits. -/
lemma toList_decimal (n : Nat) : (Text.decimal n).toList = Text.digits 10 n := by
  have hn : ¬ (n : Int) < 0 := by omega
  rw [Text.decimal, if_neg hn, String.toList_ofList, Int.natAbs_natCast]

/-- A language string is read again. -/
lemma read?_lang (n : Nat) (rest : List Char) :
    read? ((symbol (.lang n)).chars ++ rest) = some (symbol (.lang n), rest) := by
  have hchars : (symbol (.lang n)).chars ++ rest =
      '$' :: '(' :: ("LangString".toList ++ (Text.digits 10 n ++ (")".toList ++ rest))) := by
    simp only [chars, Symbol.text, String.toList_append, toList_decimal, List.append_assoc]
    rfl
  have hnumber := number?_append "LangString" ")" n rest ⟨')', [], rfl, by decide⟩
  rw [hchars, read?, if_pos rfl, afterDollar?, hnumber]
  rfl

/-- A shell folder is read again: its first number ends at the line between them, its second one at
the two lines behind it. -/
lemma read?_shell (a b : Nat) (rest : List Char) :
    read? ((symbol (.shell a b)).chars ++ rest) = some (symbol (.shell a b), rest) := by
  have hchars : (symbol (.shell a b)).chars ++ rest = '$' :: '_' :: '_' :: 'S' :: ("HELL_".toList ++
      (Text.digits 10 a ++
        ("_".toList ++ ("".toList ++ (Text.digits 10 b ++ ("__".toList ++ rest)))))) := by
    simp only [chars, Symbol.text, String.toList_append, toList_decimal, List.append_assoc]
    rfl
  have hfirst := number?_append "HELL_" "_" a
    ("".toList ++ (Text.digits 10 b ++ ("__".toList ++ rest))) ⟨'_', [], rfl, by decide⟩
  have hsecond := number?_append "" "__" b rest ⟨'_', ['_'], rfl, by decide⟩
  rw [hchars, read?, if_pos rfl, afterDollar?, hfirst, Option.bind_eq_bind, Option.bind_some]
  simp only [hsecond, Option.bind_some]

/-- A register is read again. -/
lemma read?_register {n : Nat} (hn : n < 20) (rest : List Char) :
    read? ((symbol (.var n)).chars ++ rest) = some (symbol (.var n), rest) := by
  interval_cases n <;> rfl

/-- A variable with a name is read again: no name begins another one. -/
lemma read?_named {n : Nat} (hle : 20 ≤ n) (hlt : n < 31) (rest : List Char) :
    read? ((symbol (.var n)).chars ++ rest) = some (symbol (.var n), rest) := by
  interval_cases n <;> cases rest <;> rfl

/-- The variables behind those with names are written with their numbers. -/
lemma varText_of_le {n : Nat} (hn : 31 ≤ n) :
    Symbol.varText n = "$__var" ++ Text.decimal n ++ "__" := by
  have hlookup : systemVariables.lookup (n : Int) = none := by
    rw [List.lookup_eq_none_iff]
    intro v hv
    have hle : v.1 ≤ 30 := (show ∀ v ∈ systemVariables, v.1 ≤ 30 by decide) v hv
    exact bne_iff_ne.2 (by omega)
  rw [Symbol.varText, hlookup]
  simp only
  rw [if_neg (by omega), if_neg (by omega)]

/-- A variable is read again. -/
lemma read?_var (n : Nat) (rest : List Char) :
    read? ((symbol (.var n)).chars ++ rest) = some (symbol (.var n), rest) := by
  rcases Nat.lt_or_ge n 20 with hn | hn
  · exact read?_register hn rest
  rcases Nat.lt_or_ge n 31 with hn' | hn'
  · exact read?_named hn hn' rest
  · have hchars : (symbol (.var n)).chars ++ rest =
        '$' :: '_' :: '_' :: 'v' ::
          ("ar".toList ++ (Text.digits 10 n ++ ("__".toList ++ rest))) := by
      simp only [chars, Symbol.text, varText_of_le hn', String.toList_append,
        toList_decimal, List.append_assoc]
      rfl
    have hnumber := number?_append "ar" "__" n rest ⟨'_', ['_'], rfl, by decide⟩
    rw [hchars, read?, if_pos rfl, afterDollar?, hnumber]
    rfl

/-- A character is read again. The five that are escaped are told by what follows the dollar
sign. -/
lemma read?_char (c : UInt8) (rest : List Char) :
    read? ((char c).chars ++ rest) = some (char c, rest) := by
  show read? (escaped c ++ rest) = some (char c, rest)
  unfold escaped
  split
  · rfl
  · rfl
  · rfl
  · rfl
  · rfl
  · rename_i hdollar
    have hlt := c.toNat_lt
    have hnat : (Char.ofNat c.toNat).toNat = c.toNat := by
      rw [Char.ofNat, dif_pos (Or.inl (by omega))]
      rfl
    have hne : Char.ofNat c.toNat ≠ '$' := by
      intro h
      rw [h] at hnat
      exact hdollar (UInt8.toNat_inj.1 hnat.symm)
    rw [List.singleton_append, read?, if_neg hne, hnat, UInt8.ofNat_toNat]

/-- **A token is read again**, whatever follows it. -/
theorem read?_chars_append {t : Token} (ht : t.Coded) (rest : List Char) :
    read? (t.chars ++ rest) = some (t, rest) := by
  cases t with
  | char c => exact read?_char c rest
  | symbol s =>
    cases s with
    | var n =>
      obtain ⟨n, rfl⟩ := Int.eq_ofNat_of_zero_le ht
      exact read?_var n rest
    | lang n =>
      obtain ⟨n, rfl⟩ := Int.eq_ofNat_of_zero_le ht
      exact read?_lang n rest
    | shell a b =>
      obtain ⟨a, rfl⟩ := Int.eq_ofNat_of_zero_le ht.1
      obtain ⟨b, rfl⟩ := Int.eq_ofNat_of_zero_le ht.2
      exact read?_shell a b rest
    | literal text => exact absurd ht id

/-- Tokens can be told from their texts, with nothing between them. -/
lemma eq_of_flatMap_chars_eq {ts us : List Token} (hts : ∀ t ∈ ts, t.Coded)
    (hus : ∀ u ∈ us, u.Coded) (h : ts.flatMap chars = us.flatMap chars) : ts = us := by
  induction ts generalizing us with
  | nil =>
    cases us with
    | nil => rfl
    | cons u us =>
      have hread := read?_chars_append (hus u List.mem_cons_self) (us.flatMap chars)
      rw [← List.flatMap_cons, ← h] at hread
      cases hread
  | cons t ts ih =>
    have hread := read?_chars_append (hts t List.mem_cons_self) (ts.flatMap chars)
    rw [← List.flatMap_cons, h] at hread
    cases us with
    | nil => cases hread
    | cons u us =>
      have hread' := read?_chars_append (hus u List.mem_cons_self) (us.flatMap chars)
      rw [← List.flatMap_cons, hread] at hread'
      simp only [Option.some.injEq, Prod.mk.injEq] at hread'
      obtain ⟨rfl, hrest⟩ := hread'
      rw [ih (fun t ht => hts t (List.mem_cons_of_mem _ ht))
        (fun u hu => hus u (List.mem_cons_of_mem _ hu)) hrest]

end Token

/-! ## Symbols and their tokens -/

/-- The symbol of a code is one that a code can stand for. -/
lemma coded_symbol (codes : CodeSet) (c p q : UInt8) :
    (Token.symbol (codes.symbol c p q)).Coded := by
  rw [CodeSet.symbol]
  split_ifs
  · exact ⟨Int.natCast_nonneg _, Int.natCast_nonneg _⟩
  · exact Int.natCast_nonneg _
  · exact Int.natCast_nonneg _

/-- The tokens of a coded string are such as it can hold. -/
lemma Reads.coded {codes : CodeSet} {room : Nat} {data : Bytes} {ts : List Token} {n : Nat}
    (h : Reads codes room data ts n) : ∀ t ∈ ts, t.Coded := by
  induction h with
  | full data => simp
  | empty room => simp
  | closed room rest => simp
  | code p q hc hcode h ih => exact List.forall_mem_cons.2 ⟨coded_symbol codes _ p q, ih⟩
  | char hc hcode hskip h ih => exact List.forall_mem_cons.2 ⟨trivial, ih⟩

/-- A text as symbols is shown by this text. -/
lemma flatMap_text_ofText (text : List Char) :
    (Symbol.ofText text).flatMap (fun s => s.text.toList) = text := by
  rw [Symbol.ofText]
  split_ifs with hempty
  · exact (List.isEmpty_iff.1 hempty).symm
  · simp [Symbol.text]

/-- What a sequence of tokens stands for is written as the tokens are. -/
lemma flatMap_text_runs (ts : List Token) :
    (Symbol.runs ts).1 ++ (Symbol.runs ts).2.flatMap (fun s => s.text.toList) =
      ts.flatMap Token.chars := by
  induction ts with
  | nil => rfl
  | cons t ts ih =>
    cases t with
    | char c =>
      rw [Symbol.runs, List.flatMap_cons, ← ih, Token.chars, List.append_assoc]
    | symbol s =>
      simp only [Symbol.runs, List.nil_append, List.flatMap_cons, List.flatMap_append,
        flatMap_text_ofText, ih, Token.chars]

/-- **The text of symbols is that of the tokens they were made of**, one after the other. -/
theorem toList_textOf_ofTokens (ts : List Token) :
    (Symbol.textOf (Symbol.ofTokens ts)).toList = ts.flatMap Token.chars := by
  rw [Symbol.textOf, String.toList_join, List.flatMap_map, Symbol.ofTokens, List.flatMap_append,
    flatMap_text_ofText, flatMap_text_runs]

/-- The symbols of a string are made of coded tokens. -/
lemma exists_tokens_of_symbolize {block : Bytes} {offset : Int} {version : VersionTag}
    {symbols : List Symbol} {n : Nat} (h : symbolize block offset version = .ok (symbols, n)) :
    ∃ ts : List Token, (∀ t ∈ ts, t.Coded) ∧ symbols = Symbol.ofTokens ts := by
  rw [symbolize] at h
  split at h
  · rename_i codes hcodes
    cases htokens : tokens codes (stringRoom block offset) (Signed.suffix block offset) with
    | error e =>
      rw [symbolsOf, htokens] at h
      cases h
    | ok p =>
      rw [symbolsOf, htokens] at h
      cases h
      exact ⟨p.1, (tokens_eq_ok_iff.1 htokens).coded, rfl⟩
  · cases h

/-- The text of a string is that of its symbols. -/
lemma text_of_decodeString {block : Bytes} {offset : Int} {version : VersionTag}
    {symbols : List Symbol} {n m : Nat} {text : String}
    (h : symbolize block offset version = .ok (symbols, n))
    (htext : decodeString block offset version = .ok (text, m)) : text = Symbol.textOf symbols := by
  rw [decodeString, h] at htext
  cases htext
  rfl

/-- **Equal texts come from equal symbols**, wherever the strings stand and whichever code bytes
they are coded with. -/
theorem symbols_eq_of_text_eq {block block' : Bytes} {offset offset' : Int}
    {version version' : VersionTag} {symbols symbols' : List Symbol} {n n' m m' : Nat}
    {text : String} (h : symbolize block offset version = .ok (symbols, n))
    (h' : symbolize block' offset' version' = .ok (symbols', n'))
    (htext : decodeString block offset version = .ok (text, m))
    (htext' : decodeString block' offset' version' = .ok (text, m')) : symbols = symbols' := by
  obtain ⟨ts, hts, rfl⟩ := exists_tokens_of_symbolize h
  obtain ⟨us, hus, rfl⟩ := exists_tokens_of_symbolize h'
  have hchars : ts.flatMap Token.chars = us.flatMap Token.chars := by
    rw [← toList_textOf_ofTokens, ← toList_textOf_ofTokens, ← text_of_decodeString h htext,
      ← text_of_decodeString h' htext']
  rw [Token.eq_of_flatMap_chars_eq hts hus hchars]

/-- One string with low codes at the end of a block, and one with high codes at the start of
another. Their text has an escaped dollar sign, a register before a digit, a variable without a
name, a shell folder and a language string. -/
theorem symbols_eq_of_mixed :
    let low : Bytes := [0, 0x24, 3, 1, 0x80, 0x30, 3, 100, 0x80, 2, 7, 12, 1, 5, 1]
    let high : Bytes :=
      [0x24, 253, 0x81, 0x80, 0x30, 253, 0xe4, 0x80, 254, 7, 12, 255, 0x85, 0x81, 0]
    let text := "$$$10$__var100__$__SHELL_7_12__$(LangString133)"
    ∃ symbols symbols' : List Symbol,
      (symbolize low (-14) (.text "3") = .ok (symbols, 14) ∧
        symbolize high 0 (.text "2") = .ok (symbols', 15) ∧
        decodeString low (-14) (.text "3") = .ok (text, 14) ∧
        decodeString high 0 (.text "2") = .ok (text, 15)) ∧
      symbols = symbols' ∧ symbols.length = 6 := by
  intro low high text
  have h : symbolize low (-14) (.text "3") =
      .ok ([.literal "$$", .var 1, .literal "0", .var 100, .shell 7 12, .lang 133], 14) := by rfl
  have h' : symbolize high 0 (.text "2") =
      .ok ([.literal "$$", .var 1, .literal "0", .var 100, .shell 7 12, .lang 133], 15) := by rfl
  have htext : decodeString low (-14) (.text "3") = .ok (text, 14) := by rfl
  have htext' : decodeString high 0 (.text "2") = .ok (text, 15) := by rfl
  exact ⟨_, _, ⟨h, h', htext, htext'⟩, symbols_eq_of_text_eq h h' htext htext', rfl⟩

end Nsis
