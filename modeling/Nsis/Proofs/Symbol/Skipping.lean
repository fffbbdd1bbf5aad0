import Nsis.Proofs.Symbol.Parts

/-!
# Code bytes as characters

A skip byte is there to announce that the byte behind it is a character, although it would be a
code. With it every text without zero bytes has a coded form. That form is read again only if it
contains no skip byte: the byte behind a skip byte is joined to the text as the number it is, which
is a fault.

## Main definitions

* `Nsis.skipped` — a text with a skip byte before each of its code bytes.

## Main results

* `Nsis.symbolize_skipped` — which texts are read again from their coded form.
-/

namespace Nsis

variable {codes : CodeSet} {text : Bytes}

/-- A text with a skip byte before each of its code bytes. -/
def skipped (codes : CodeSet) (text : Bytes) : Bytes :=
  text.flatMap fun c => if c ∈ codes.codeBytes then [codes.skip, c] else [c]

/-- A code byte is written behind a skip byte, and others as they are. -/
lemma skipped_cons (c : UInt8) (text : Bytes) :
    skipped codes (c :: text) =
      (if c ∈ codes.codeBytes then [codes.skip, c] else [c]) ++ skipped codes text := rfl

/-- At most every byte has a skip byte before it. -/
lemma length_skipped_le (codes : CodeSet) (text : Bytes) :
    (skipped codes text).length ≤ 2 * text.length := by
  induction text with
  | nil => exact le_rfl
  | cons c text ih =>
    rw [skipped_cons, List.length_append, List.length_cons]
    split_ifs
    · simp only [List.length_cons, List.length_nil]
      omega
    · simp only [List.length_cons, List.length_nil]
      omega

/-- A text without code bytes is its own coded form. -/
lemma skipped_eq_self (h : ∀ c ∈ text, c ∉ codes.codeBytes) : skipped codes text = text := by
  induction text with
  | nil => rfl
  | cons c text ih =>
    rw [List.forall_mem_cons] at h
    rw [skipped_cons, if_neg h.1, ih h.2, List.singleton_append]

/-- The coded form of a text with code bytes has characters up to a skip byte. -/
lemma exists_skipped_eq (hzero : (0 : UInt8) ∉ text) (h : ∃ c ∈ text, c ∈ codes.codeBytes) :
    ∃ before c rest, (∀ d ∈ before, codes.IsChar d) ∧
      skipped codes text = before ++ codes.skip :: c :: rest := by
  induction text with
  | nil => simp at h
  | cons c text ih =>
    rw [List.mem_cons, not_or] at hzero
    rw [skipped_cons]
    by_cases hcode : c ∈ codes.codeBytes
    · rw [if_pos hcode]
      exact ⟨[], c, skipped codes text, by simp, rfl⟩
    · have hrest : ∃ d ∈ text, d ∈ codes.codeBytes := by
        obtain ⟨d, hd, hmem⟩ := h
        rcases List.mem_cons.1 hd with rfl | hd
        · exact absurd hmem hcode
        · exact ⟨d, hd, hmem⟩
      obtain ⟨before, e, rest, hchars, heq⟩ := ih hzero.2 hrest
      refine ⟨c :: before, e, rest, List.forall_mem_cons.2 ⟨⟨Ne.symm hzero.1, hcode⟩, hchars⟩, ?_⟩
      rw [if_neg hcode, heq]
      rfl

/-- Characters are one part, or none if there are no characters. -/
lemma exists_parts_of_chars (h : ∀ c ∈ text, codes.IsChar c) :
    ∃ parts : List (Part codes), Part.Separated parts ∧ Part.written parts = text ∧
      parts.map Part.symbol =
        if text = [] then [] else [.literal (String.ofList (text.flatMap writtenChar))] := by
  by_cases hnil : text = []
  · rw [if_pos hnil]
    exact ⟨[], List.isChain_nil, hnil.symm, rfl⟩
  · rw [if_neg hnil]
    exact ⟨[.run text hnil h], List.isChain_singleton _, List.append_nil text, rfl⟩

/-- **Which texts are read again from their coded form.** A text without code bytes is: its symbol
is the text, with the characters that have another form in that form. A text with a code byte is
not. -/
theorem symbolize_skipped (codes : CodeSet) (text : Bytes) (hlength : text.length ≤ 500)
    (hzero : (0 : UInt8) ∉ text) :
    ((∀ c ∈ text, c ∉ codes.codeBytes) →
      symbolize (skipped codes text ++ [0]) 0 (.text codes.version) =
        .ok (if text = [] then [] else [.literal (String.ofList (text.flatMap writtenChar))],
          (skipped codes text).length + 1)) ∧
    ((∃ c ∈ text, c ∈ codes.codeBytes) →
      symbolize (skipped codes text ++ [0]) 0 (.text codes.version) =
        .error (.notText .number)) := by
  have hwindow : stringWindow (skipped codes text ++ [0]) 0 = skipped codes text ++ [0] := by
    refine stringWindow_zero ?_
    have := length_skipped_le codes text
    rw [List.length_append, List.length_singleton]
    omega
  constructor
  · intro hplain
    have hchars : ∀ c ∈ text, codes.IsChar c := fun c hc => ⟨fun h => hzero (h ▸ hc), hplain c hc⟩
    obtain ⟨parts, hsep, hwritten, hsymbols⟩ := exists_parts_of_chars hchars
    rw [← hsymbols, skipped_eq_self hplain, ← hwritten]
    rw [skipped_eq_self hplain, ← hwritten] at hwindow
    exact symbolize_of_parts hsep hwindow (.inl rfl)
  · intro hcode
    obtain ⟨before, c, rest, hchars, heq⟩ := exists_skipped_eq hzero hcode
    obtain ⟨parts, -, hwritten, -⟩ := exists_parts_of_chars hchars
    have hskip : stringWindow (skipped codes text ++ [0]) 0 =
        Part.written parts ++ codes.skip :: c :: (rest ++ [0]) := by
      rw [hwindow, heq, hwritten, List.append_assoc]
      rfl
    exact symbolize_of_skip hskip

/-- With high codes a text that begins with a tabulator and a byte 1 is read again, with low codes
it is not. -/
theorem symbolize_skipped_of_both_codings :
    symbolize (skipped .high [9, 1, 0x41] ++ [0]) 0 (.text "2") = .ok ([.literal "$\\t\x01A"], 4) ∧
      symbolize (skipped .low [9, 1, 0x41] ++ [0]) 0 (.text "3") = .error (.notText .number) :=
  ⟨(symbolize_skipped .high [9, 1, 0x41] (by decide) (by decide)).1
      (by simp only [List.forall_mem_cons, List.not_mem_nil, false_implies, implies_true]; decide),
    (symbolize_skipped .low [9, 1, 0x41] (by decide) (by decide)).2 ⟨1, by decide, by decide⟩⟩

/-- **The text of a single code byte has no coded form** from which it is read again: its coded form
is a fault. -/
theorem symbolize_skipped_code_byte_ne :
    ([1] : Bytes).length ≤ 500 ∧ (0 : UInt8) ∉ ([1] : Bytes) ∧ skipped .low [1] ++ [0] = [4, 1, 0] ∧
      symbolize (skipped .low [1] ++ [0]) 0 (.text "3") ≠ .ok ([.literal "\x01"], 3) := by
  refine ⟨by decide, by decide, rfl, ?_⟩
  rw [show symbolize (skipped .low [1] ++ [0]) 0 (.text "3") = .error (.notText .number) from rfl]
  simp

end Nsis
