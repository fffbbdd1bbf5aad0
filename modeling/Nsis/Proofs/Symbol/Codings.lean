import Nsis.Installer.Strings
import Nsis.Proofs.Symbol.Unambiguous

/-!
# One string in two codings

The code bytes of the two codings lie at the two ends of the range of bytes. What is a code in one
of them is a character in the other, so that a string has the same text in both exactly if it has no
code byte of either.

## Main definitions

* `Nsis.IsPlain` — the bytes that are characters in both codings.

## Main results

* `Nsis.exists_same_text_iff` — which strings have the same text in both codings.
-/

namespace Nsis

/-- A byte that is a character in both codings. -/
def IsPlain (c : UInt8) : Prop :=
  4 < c ∧ c < 252

/-- Whether a character is plain can be computed. -/
instance (c : UInt8) : Decidable (IsPlain c) :=
  inferInstanceAs (Decidable (4 < c ∧ c < 252))

/-- A plain character is no code and no skip byte, in whatever coding. -/
lemma isPlain_iff {c : UInt8} :
    IsPlain c ↔ ∀ codes : CodeSet, ¬ codes.isCode c ∧ c ≠ codes.skip := by
  unfold IsPlain
  constructor
  · rintro ⟨hlow, hhigh⟩ codes
    cases codes <;> simp only [CodeSet.isCode, CodeSet.skip] <;> grind
  · intro h
    have hlow := h .low
    have hhigh := h .high
    simp only [CodeSet.isCode, CodeSet.skip] at hlow hhigh
    grind

/-- No byte is a code in both codings. -/
lemma CodeSet.not_isCode_high_of_low {c : UInt8} (h : low.isCode c) : ¬ high.isCode c := by
  simp only [isCode, skip] at h ⊢
  grind

/-- A string that begins with a symbol begins with a code byte. -/
lemma Reads.isCode_of_symbol {codes : CodeSet} {room n : Nat} {c : UInt8} {rest : Bytes}
    {s : Symbol} {ts : List Token} (h : Reads codes room (c :: rest) (.symbol s :: ts) n) :
    codes.isCode c := by
  cases h with
  | code _ _ _ hcode _ => exact hcode

/-- A character that is not zero belongs to the string that it begins. -/
lemma Strings.leading_cons {c : UInt8} (hc : c ≠ 0) (data : Bytes) :
    Strings.leading (c :: data) = c :: Strings.leading data := by
  simp [Strings.leading, hc]

/-- Plain bytes are read in the same way in both codings. -/
lemma exists_reads_of_plain {room : Nat} {data : Bytes}
    (h : ∀ c ∈ Strings.leading (data.take room), IsPlain c) :
    ∃ ts n, ∀ codes, Reads codes room data ts n := by
  induction data generalizing room with
  | nil => exact ⟨[], 0, fun codes => .empty room⟩
  | cons c data ih =>
    cases room with
    | zero => exact ⟨[], 0, fun codes => .full _⟩
    | succ room =>
      by_cases hc : c = 0
      · exact ⟨[], 1, fun codes => hc ▸ .closed room data⟩
      · rw [List.take_succ_cons, Strings.leading_cons hc, List.forall_mem_cons] at h
        obtain ⟨ts, n, hreads⟩ := ih h.2
        refine ⟨.char c :: ts, n + 1, fun codes => ?_⟩
        obtain ⟨hcode, hskip⟩ := isPlain_iff.1 h.1 codes
        exact .char hc hcode hskip (hreads codes)

/-- What is read in the same way in both codings is plain: the first code in one of them is a
character in the other. -/
lemma plain_of_reads {room : Nat} {data : Bytes} {ts : List Token} {n m : Nat}
    (hlow : Reads .low room data ts n) (hhigh : Reads .high room data ts m) :
    ∀ c ∈ Strings.leading (data.take room), IsPlain c := by
  induction hlow generalizing m with
  | full data => simp [Strings.leading]
  | empty room => simp [Strings.leading]
  | closed room rest => simp [Strings.leading]
  | code p q hc hcode h ih =>
    exact absurd hhigh.isCode_of_symbol (CodeSet.not_isCode_high_of_low hcode)
  | @char room n c rest ts hc hcode hskip h ih =>
    cases hhigh with
    | char _ hcode' hskip' hrest =>
      rw [List.take_succ_cons, Strings.leading_cons hc, List.forall_mem_cons]
      refine ⟨isPlain_iff.2 fun codes => ?_, ih hrest⟩
      cases codes with
      | low => exact ⟨hcode, hskip⟩
      | high => exact ⟨hcode', hskip'⟩

/-- **Which strings have the same text in both codings**: those that are stored with plain bytes
only, up to the zero byte that closes them. -/
theorem exists_same_text_iff {block : Bytes} {offset : Nat} :
    (∃ text n m, decodeString block offset (.text "3") = .ok (text, n) ∧
      decodeString block offset (.text "2") = .ok (text, m)) ↔
      ∀ c ∈ Strings.leading ((block.drop offset).take maxStringLength), IsPlain c := by
  simp only [decodeString_eq_ok_iff (show CodeSet.ofVersion? (.text "3") = some .low from rfl),
    decodeString_eq_ok_iff (show CodeSet.ofVersion? (.text "2") = some .high from rfl)]
  constructor
  · rintro ⟨text, n, m, ⟨ts, hlow, htext⟩, us, hhigh, htext'⟩
    have hchars : ts.flatMap Token.chars = us.flatMap Token.chars := by
      rw [← toList_textOf_ofTokens, ← toList_textOf_ofTokens, ← htext, ← htext']
    obtain rfl := Token.eq_of_flatMap_chars_eq hlow.coded hhigh.coded hchars
    exact plain_of_reads hlow hhigh
  · intro hplain
    obtain ⟨ts, n, hreads⟩ := exists_reads_of_plain hplain
    exact ⟨_, n, n, ⟨ts, hreads .low, rfl⟩, ts, hreads .high, rfl⟩

end Nsis
