import Mathlib.Data.List.Basic
import Nsis.Installer.Session
import Nsis.Proofs.Symbol.Unambiguous

/-!
# The two listings of strings

The strings of an installer are listed in two ways: as they are stored, from one zero byte to the
next, and as texts, where each string is decoded and the next one begins behind the bytes that it
took. A zero byte may be the parameter of a code, and a string is decoded no further than 1024
bytes, so that the two could lose step. They do not if every stored string is complete and short
enough.

## Main definitions

* `Nsis.Strings.Walks` — the walk through a block that lists its texts, round by round.

## Main results

* `Nsis.Strings.walks_of_texts` — the listing of texts is that of the walk.
* `Nsis.Strings.texts_of_raws` — the two listings of a block agree.
* `Nsis.Session.texts_eq_decoded_raws` — the two listings of an installer agree.
-/

namespace Nsis

namespace Strings

/-- The walk through a block from an offset on. In each round the string at the offset is decoded,
its text is kept unless it is empty, and the walk goes on behind the bytes that it took. -/
inductive Walks (block : Bytes) : (offset : Nat) → List String → Prop
  /-- The end of the block was reached. -/
  | finish {offset : Nat} (h : block.length ≤ offset) : Walks block offset []
  /-- One more string is decoded. -/
  | round {offset n : Nat} {text : String} {texts : List String} (h : offset < block.length)
      (hdecode : decodeString block offset (.text "3") = .ok (text, n))
      (hrest : Walks block (offset + n) texts) :
      Walks block offset (if text.isEmpty then texts else text :: texts)

/-! ## Decoding in a block -/

/-- The symbols at a natural offset are those of the bytes from there on. -/
lemma symbolize_natCast (block : Bytes) (offset : Nat) :
    symbolize block offset (.text "3") = symbolsOf .low maxStringLength (block.drop offset) :=
  symbolize_natCast_of_codes rfl block offset

/-- The tokens of a string that is accepted can be read. -/
lemma reads_of_symbolize {block : Bytes} {offset n : Nat} {symbols : List Symbol}
    (h : symbolize block offset (.text "3") = .ok (symbols, n)) :
    ∃ ts, Reads .low maxStringLength (block.drop offset) ts n := by
  rw [symbolize_natCast, symbolsOf] at h
  cases htokens : tokens .low maxStringLength (block.drop offset) with
  | error e =>
    rw [htokens] at h
    cases h
  | ok p =>
    rw [htokens] at h
    cases h
    exact ⟨p.1, tokens_eq_ok_iff.1 htokens⟩

/-- The text of the string at a place of a block is that of its tokens. -/
lemma decodeString_of_reads {block : Bytes} {offset n : Nat} {ts : List Token}
    (h : Reads .low maxStringLength (block.drop offset) ts n) :
    decodeString block offset (.text "3") = .ok (Symbol.textOf (Symbol.ofTokens ts), n) :=
  (decodeString_eq_ok_iff rfl).2 ⟨ts, h, rfl⟩

/-! ## The walk -/

/-- One round of the listing of texts. -/
lemma texts_eq_ok {block : Bytes} {ts : List String} (hne : block ≠ []) (h : texts block = .ok ts) :
    ∃ tokens n rest, Reads .low maxStringLength block tokens n ∧ 0 < n ∧
      texts (block.drop n) = .ok rest ∧
      ts = if (Symbol.textOf (Symbol.ofTokens tokens)).isEmpty then rest
        else Symbol.textOf (Symbol.ofTokens tokens) :: rest := by
  obtain ⟨b, data, rfl⟩ := List.exists_cons_of_ne_nil hne
  rw [texts] at h
  split at h
  · cases h
  · rename_i tokens n htokens
    split at h
    · cases h
    · rename_i rest hrest
      cases h
      exact ⟨tokens, n, rest, tokens_eq_ok_iff.1 htokens, pos_of_tokens htokens, hrest, rfl⟩

/-- A round that can be made gives the listing of texts. -/
lemma texts_of_reads {block : Bytes} {tokens : List Token} {n : Nat} {rest : List String}
    (hne : block ≠ []) (h : Reads .low maxStringLength block tokens n)
    (hrest : texts (block.drop n) = .ok rest) :
    texts block = .ok (if (Symbol.textOf (Symbol.ofTokens tokens)).isEmpty then rest
      else Symbol.textOf (Symbol.ofTokens tokens) :: rest) := by
  obtain ⟨b, data, rfl⟩ := List.exists_cons_of_ne_nil hne
  rw [texts]
  split
  · rename_i htokens
    rw [tokens_of_reads h] at htokens
    cases htokens
  · rename_i htokens
    rw [tokens_of_reads h] at htokens
    cases htokens
    rw [hrest]

/-- **The listing of texts is that of the walk**, which therefore comes to an end. -/
theorem walks_of_texts {block : Bytes} {offset : Nat} {ts : List String}
    (h : texts (block.drop offset) = .ok ts) : Walks block offset ts := by
  -- a round takes at least one byte, and so what is left of the block gets shorter
  induction hleft : block.length - offset using Nat.strong_induction_on generalizing offset ts with
  | _ left ih =>
    by_cases hoffset : block.length ≤ offset
    · rw [List.drop_eq_nil_of_le hoffset, texts] at h
      cases h
      exact .finish hoffset
    · have hne : block.drop offset ≠ [] := by
        rw [Ne, List.drop_eq_nil_iff]
        exact hoffset
      obtain ⟨tokens, n, rest, hreads, hpos, hrest, rfl⟩ := texts_eq_ok hne h
      rw [List.drop_drop] at hrest
      exact .round (Nat.not_le.1 hoffset) (decodeString_of_reads hreads)
        (ih _ (by omega) hrest rfl)

/-! ## Stored strings -/

/-- There is no zero byte before the first one. -/
lemma zero_notMem_leading (block : Bytes) : (0 : UInt8) ∉ leading block := by
  intro hzero
  have hall := List.all_takeWhile (p := fun b : UInt8 => b ≠ 0) (l := block)
  simpa using List.all_eq_true.1 hall 0 hzero

/-- A block is its first string alone, or followed by a zero byte and the strings behind it. -/
lemma eq_leading_or (block : Bytes) :
    block = leading block ∧ block.drop ((leading block).length + 1) = [] ∨
      block = leading block ++ 0 :: block.drop ((leading block).length + 1) := by
  induction block with
  | nil => exact .inl ⟨rfl, rfl⟩
  | cons b block ih =>
    by_cases hb : b = 0
    · subst hb
      exact .inr rfl
    · have hleading : leading (b :: block) = b :: leading block :=
        List.takeWhile_cons_of_pos (by simpa using hb)
      rw [hleading, List.length_cons, List.drop_succ_cons, List.cons_append]
      rcases ih with ⟨heq, hdrop⟩ | heq
      · exact .inl ⟨by rw [← heq], hdrop⟩
      · exact .inr (by rw [← heq])

/-- A zero byte in the place of a string is passed over. -/
lemma texts_zero {rest : Bytes} {ts : List String} (h : texts rest = .ok ts) :
    texts (0 :: rest) = .ok ts :=
  texts_of_reads (List.cons_ne_nil 0 rest) (.closed _ rest) h

/-- A string that is not empty has a text that is not empty. -/
lemma text_ne_empty {codes : CodeSet} {room n : Nat} {data : Bytes} {ts : List Token}
    (h : Reads codes room data ts n) (hroom : 0 < room) (hne : data ≠ [])
    (hzero : (0 : UInt8) ∉ data) : (Symbol.textOf (Symbol.ofTokens ts)).isEmpty = false := by
  obtain ⟨t, us, rfl⟩ : ∃ t us, ts = t :: us := by
    cases h with
    | full data => exact absurd hroom (Nat.lt_irrefl 0)
    | empty room => exact absurd rfl hne
    | closed room rest => exact absurd List.mem_cons_self hzero
    | code p q hc hcode h => exact ⟨_, _, rfl⟩
    | char hc hcode hskip h => exact ⟨_, _, rfl⟩
  rw [Bool.eq_false_iff, Ne, String.isEmpty_iff]
  intro hempty
  have hchars := toList_textOf_ofTokens (t :: us)
  rw [hempty, List.flatMap_cons] at hchars
  have hread := Token.read?_chars_append (h.coded t List.mem_cons_self) (us.flatMap Token.chars)
  rw [← hchars] at hread
  cases hread

/-- A stored string at the start of a block is listed with its text, and what follows it after
that. -/
lemma texts_append {r : Bytes} {ts : List Token} {n : Nat} (h : Reads .low maxStringLength r ts n)
    (hne : r ≠ []) (hzero : (0 : UInt8) ∉ r) (hshort : r.length ≤ maxStringLength) {rest : Bytes}
    {listed : List String} (hrest : texts rest = .ok listed) :
    texts (r ++ 0 :: rest) = .ok (Symbol.textOf (Symbol.ofTokens ts) :: listed) := by
  obtain ⟨hn, hreads⟩ := h.append_zero hzero hshort rest
  have hnext : texts ((r ++ 0 :: rest).drop (if n < maxStringLength then n + 1 else n)) =
      .ok listed := by
    subst hn
    split_ifs
    · -- the zero byte was read together with the string
      rw [List.drop_length_add_append]
      exact hrest
    · -- the string is as long as can be, and the zero byte is left over
      rw [List.drop_left]
      exact texts_zero hrest
  have htexts := texts_of_reads (by simp) hreads hnext
  rwa [text_ne_empty h (by decide) hne hzero, if_neg (by decide)] at htexts

/-- A stored string that is the last of its block is listed with its text. -/
lemma texts_last {r : Bytes} {ts : List Token} {n : Nat} (h : Reads .low maxStringLength r ts n)
    (hne : r ≠ []) (hzero : (0 : UInt8) ∉ r) (hshort : r.length ≤ maxStringLength) :
    texts r = .ok [Symbol.textOf (Symbol.ofTokens ts)] := by
  obtain ⟨hn, -⟩ := h.append_zero hzero hshort []
  have hnext : texts (r.drop n) = .ok [] := by
    rw [hn, List.drop_length, texts]
  have htexts := texts_of_reads hne h hnext
  rwa [text_ne_empty h (by decide) hne hzero, if_neg (by decide)] at htexts

/-- **The two listings of a block agree.** -/
theorem texts_of_raws {block : Bytes} (hshort : ∀ r ∈ raws block, r.length ≤ maxStringLength)
    (hcoded : ∀ r ∈ raws block, ∃ ts n, Reads .low maxStringLength r ts n) :
    ∃ ts, texts block = .ok ts ∧
      ts.map .ok = (raws block).map fun r => (decodeString r 0 (.text "3")).map (·.1) := by
  fun_induction raws block with
  | case1 block hempty =>
    obtain rfl := List.isEmpty_iff.1 hempty
    exact ⟨[], by rw [texts], rfl⟩
  | case2 block hempty s rest hs ih =>
    -- there is no string before the first zero byte
    have hnil : leading block = [] := List.isEmpty_iff.1 hs
    obtain ⟨ts, htexts, hmap⟩ := ih hshort hcoded
    refine ⟨ts, ?_, hmap⟩
    rcases eq_leading_or block with ⟨heq, -⟩ | heq
    · exact absurd (List.isEmpty_iff.2 (heq.trans hnil)) hempty
    · rw [heq, hnil]
      exact texts_zero (hnil ▸ htexts)
  | case3 block hempty s rest hs ih =>
    have hne : leading block ≠ [] := fun h => hs (List.isEmpty_iff.2 h)
    have hzero := zero_notMem_leading block
    obtain ⟨tokens, n, hreads⟩ := hcoded _ List.mem_cons_self
    have hlen := hshort _ List.mem_cons_self
    obtain ⟨ts, htexts, hmap⟩ := ih (fun r hr => hshort r (List.mem_cons_of_mem _ hr))
      (fun r hr => hcoded r (List.mem_cons_of_mem _ hr))
    refine ⟨Symbol.textOf (Symbol.ofTokens tokens) :: ts, ?_, ?_⟩
    · rcases eq_leading_or block with ⟨heq, hdrop⟩ | heq
      · rw [show block.drop (s.length + 1) = [] from hdrop, texts] at htexts
        cases htexts
        rw [heq]
        exact texts_last hreads hne hzero hlen
      · rw [heq]
        exact texts_append hreads hne hzero hlen htexts
    · have hdecode : decodeString s (0 : Nat) (.text "3") = .ok (_, n) :=
        decodeString_of_reads hreads
      rw [List.map_cons, List.map_cons, hmap, ← Int.natCast_zero, hdecode]
      rfl

end Strings

/-- **The two listings of an installer agree.** If each stored string has at most 1024 bytes and is
accepted when it stands alone, the walk through the block of strings comes to its end without a
fault, and lists exactly the texts of the stored strings, in their order. -/
theorem Session.texts_eq_decoded_raws {s : Session} {rs : List Bytes}
    (hraws : (s.ask .raws).1 = .ok (.raws rs)) (hshort : ∀ r ∈ rs, r.length ≤ 1024)
    (hcoded : ∀ r ∈ rs, ∃ symbols n, symbolize r 0 (.text "3") = .ok (symbols, n)) :
    ∃ ts block, (s.ask .texts).1 = .ok (.texts ts) ∧
      ts.map .ok = rs.map (fun r => (decodeString r 0 (.text "3")).map (·.1)) ∧
      (s.ask (.block BlockId.strings)).1 = .ok (.bytes block) ∧ Strings.Walks block 0 ts := by
  simp only [ask, withStrings] at hraws ⊢
  cases hblock : s.block BlockId.strings with
  | mk answer s' =>
    rw [hblock] at hraws
    cases answer with
    | error e => cases hraws
    | ok block =>
      simp only [Except.ok.injEq, Answer.raws.injEq] at hraws
      subst hraws
      obtain ⟨ts, htexts, hmap⟩ := Strings.texts_of_raws hshort fun r hr => by
        obtain ⟨symbols, n, h⟩ := hcoded r hr
        obtain ⟨tokens, hreads⟩ :=
          Strings.reads_of_symbolize (show symbolize r (0 : Nat) (.text "3") = _ from h)
        exact ⟨tokens, n, hreads⟩
      refine ⟨ts, block, ?_, hmap, rfl, Strings.walks_of_texts htexts⟩
      simp only [htexts]
      rfl

/-- An installer whose header is stored without packing. Its block of strings holds an empty string,
three others with an empty one between them, and no zero byte at its end. -/
def File.threeStrings : File where
  content :=
    [0, 0, 0, 0, 0xef, 0xbe, 0xad, 0xde] ++ FirstHeader.expectedMagic ++ List.replicate 8 0 ++
      [0x3e, 0x01, 0, 0x80, 0x01, 0x39, 0x01, 0xc6, 0xfe] ++ List.replicate 28 0 ++
      [0x2c, 0x01, 0, 0, 0, 0, 0, 0, 0x39, 0x01, 0, 0] ++ List.replicate 260 0 ++
      [0, 0x48, 0x24, 0, 3, 0x95, 0x80, 0x2e, 0, 0, 1, 5, 1]

/-- Its stored strings are accepted, and it lists their texts. -/
theorem texts_of_threeStrings :
    ∃ s rs, Session.ofFile File.threeStrings = .ok s ∧ (s.ask .raws).1 = .ok (.raws rs) ∧
      rs = [[0x48, 0x24], [3, 0x95, 0x80, 0x2e], [1, 5, 1]] ∧ (∀ r ∈ rs, r.length ≤ 1024) ∧
      (∀ r ∈ rs, ∃ symbols n, symbolize r 0 (.text "3") = .ok (symbols, n)) ∧
      (s.ask .texts).1 = .ok (.texts ["H$$", "$INSTALLDIR.", "$(LangString133)"]) := by
  have hread : (Session.ofFile File.threeStrings).toOption.map (fun s => (s.ask .raws).1.toOption) =
      some (some (.raws [[0x48, 0x24], [3, 0x95, 0x80, 0x2e], [1, 5, 1]])) := by decide +kernel
  cases hs : Session.ofFile File.threeStrings with
  | error e => simp [hs, Except.toOption] at hread
  | ok s =>
    cases hraws : (s.ask .raws).1 with
    | error e => simp [hs, hraws, Except.toOption] at hread
    | ok answer =>
      obtain rfl : answer = .raws [[0x48, 0x24], [3, 0x95, 0x80, 0x2e], [1, 5, 1]] := by
        simpa [hs, hraws, Except.toOption] using hread
      have hshort : ∀ r ∈ ([[0x48, 0x24], [3, 0x95, 0x80, 0x2e], [1, 5, 1]] : List Bytes),
          r.length ≤ 1024 := by decide
      have hcoded : ∀ r ∈ ([[0x48, 0x24], [3, 0x95, 0x80, 0x2e], [1, 5, 1]] : List Bytes),
          ∃ symbols n, symbolize r 0 (.text "3") = .ok (symbols, n) := by
        simp only [List.forall_mem_cons]
        exact ⟨⟨_, _, rfl⟩, ⟨_, _, rfl⟩, ⟨_, _, rfl⟩, by simp⟩
      obtain ⟨ts, block, htexts, hmap, -⟩ := Session.texts_eq_decoded_raws hraws hshort hcoded
      have hts : ts = ["H$$", "$INSTALLDIR.", "$(LangString133)"] :=
        List.map_injective_iff.2 (fun _ _ h => Except.ok.inj h) (hmap.trans rfl)
      exact ⟨s, _, rfl, hraws, rfl, hshort, hcoded, hts ▸ htexts⟩

end Nsis
