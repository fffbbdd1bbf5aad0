import Mathlib.Data.List.TakeWhile
import Mathlib.Tactic.Tauto
import Nsis.Formula.Value
import Nsis.Proofs.Formula.Evaluations

/-!
# Names as formulas

The simplest formulas are names. A text of letters, digits and underscores that is no reserved word
is one token, the token is the formula, and the formula stands for what the world has under the
name. Nothing is printed or remembered on the way.

The formula is found at the end of a chain of readings that all might see more in a text: choices,
disjunctions, conjunctions, denials, relations and operations. Behind a name each of them finds
nothing to go on with.

## Main definitions

* `Nsis.Formula.isPlainName` — whether a text is a name and nothing else.

## Main results

* `Nsis.Formula.lexemes_of_isPlainName` — a plain name is one token.
* `Nsis.Formula.parse_of_isPlainName` — a plain name is a formula.
* `Nsis.Formula.gives_evaluate` — a plain name stands for what the world has under it.
-/

namespace Nsis

/-! ## Steps of the evaluation -/

namespace Evaluator

variable {m : Memory}

/-- A name has the value that the world gives it. -/
lemma gives_named {keys values : List Datum} (h : m.content 0 = .record keys values) {s : String}
    {d : Datum} (hd : Evaluation.namedEntry? s keys values = some d) :
    (named {} s).Gives m (.ok d) := by
  have hvalue : (Scope.value? {} s).Gives m (.ok (some d)) := by
    refine (Evaluation.Gives.pure none).bind ((Evaluation.Gives.pure none).bind ?_)
    rw [← hd]
    exact .entryAt? h s
  exact hvalue.bind (.pure d)

/-- There is nothing to point out about a name. -/
lemma gives_point_name (s : String) : (point [.name s]).Gives m (.ok ()) := by
  have hdepth : ([Formula.name s].any fun f => maxDepth < f.depth) = false := by
    simp [Formula.depth, maxDepth]
  unfold point
  rw [hdepth]
  refine Evaluation.Gives.of_modify ?_
  simp [Formula.notices]

end Evaluator

namespace Formula

open Reading

/-! ## Names as texts -/

/-- Whether a character can stand in a plain name. -/
def isPlainChar (c : Char) : Bool :=
  c.isAlphanum || c = '_'

/-- Whether a text is a plain name: letters, digits and underscores, of which the first one is no
digit, and no reserved word. -/
def isPlainName (s : String) : Bool :=
  s.toList.head?.any (!Char.isDigit ·) && s.toList.all isPlainChar && !reserved.contains s

/-- The characters of plain names are between the digits and the last letter of ASCII. -/
lemma bounds_of_isPlainChar {c : Char} (h : isPlainChar c = true) :
    0x30 ≤ c.toNat ∧ c.toNat ≤ 0x7a := by
  have hchar : (((c.isUpper || c.isLower) || c.isDigit) || decide (c = '_')) = true := h
  have hupper : c.isUpper = decide (0x41 ≤ c.toNat ∧ c.toNat ≤ 0x5a) := rfl
  have hlower : c.isLower = (decide (0x61 ≤ c.toNat) && decide (c.toNat ≤ 0x7a)) := rfl
  have hdigit : c.isDigit = (decide (0x30 ≤ c.toNat) && decide (c.toNat ≤ 0x39)) := rfl
  simp only [hupper, hlower, hdigit, Bool.or_eq_true, Bool.and_eq_true, decide_eq_true_eq] at hchar
  rcases hchar with ((hrange | hrange) | hrange) | rfl
  · omega
  · omega
  · omega
  · decide

/-- A plain character is none that is not plain. -/
lemma ne_of_isPlainChar {c d : Char} (h : isPlainChar c = true) (hd : isPlainChar d = false) :
    c ≠ d := by
  rintro rfl
  exact absurd h (by simp [hd])

/-- Plain characters belong to names. -/
lemma isNameChar_of_isPlainChar {c : Char} (h : isPlainChar c = true) : isNameChar c = true := by
  simp only [isPlainChar, Bool.or_eq_true] at h
  simp only [isNameChar, Bool.or_eq_true]
  exact .inl h

/-- Names can go on with plain characters. -/
lemma isWordPart_of_isPlainChar {c : Char} (h : isPlainChar c = true) :
    Text.isWordPart c = true := by
  have hbounds := bounds_of_isPlainChar h
  have hstart : Text.isWordStart c = (c.isAlpha || c = '_') := by
    rw [Text.isWordStart, if_pos (by omega)]
  simp only [isPlainChar, Char.isAlphanum, Bool.or_eq_true] at h
  simp only [Text.isWordPart, hstart, Bool.or_eq_true]
  tauto

/-- Names can begin with plain characters that are no digits. -/
lemma isWordStart_of_isPlainChar {c : Char} (h : isPlainChar c = true)
    (hdigit : c.isDigit = false) : Text.isWordStart c = true := by
  have hbounds := bounds_of_isPlainChar h
  simp only [isPlainChar, Char.isAlphanum, Bool.or_eq_true, hdigit] at h
  rw [Text.isWordStart, if_pos (by omega)]
  simpa using h

/-- Plain characters have their usual width. -/
lemma narrow_of_isPlainChar {c : Char} (h : isPlainChar c = true) : narrow c = c := by
  have hbounds := bounds_of_isPlainChar h
  rw [narrow, if_neg]
  simp only [Bool.and_eq_true, decide_eq_true_eq]
  omega

/-- No quotation mark stands behind letters of a plain name. -/
lemma letterCount?_of_isPlainChar {cs : List Char} (h : ∀ c ∈ cs, isPlainChar c = true) :
    Quotation.letterCount? cs = none := by
  rw [Quotation.letterCount?, if_neg]
  simp only [Bool.and_eq_true, not_and, Bool.not_eq_true, Option.any_eq_false]
  intro _ c hc
  have hplain := h c (List.mem_of_mem_drop (List.mem_of_mem_head? hc))
  simp [ne_of_isPlainChar hplain (d := '"') (by decide),
    ne_of_isPlainChar hplain (d := '\'') (by decide)]

/-- Line ends of a text without returns are left as they are. -/
lemma withLines_eq {cs : List Char} (h : '\r' ∉ cs) : withLines cs = cs := by
  fun_induction withLines cs with
  | case1 cs ih => simp at h
  | case2 cs _ ih => simp at h
  | case3 c cs _ _ ih => rw [ih (List.not_mem_of_not_mem_cons h)]
  | case4 => rfl

/-- The lexemes of a text that is a name. -/
def nameLexemes (s : String) : List Lexeme :=
  [⟨.name s, 1, 0, 0⟩, ⟨.newline, 1, 0, 1⟩, ⟨.finish, 1, 0, 2⟩]

section PlainName

variable {s : String}

/-- The characters of a plain name. -/
lemma exists_chars_of_isPlainName (h : isPlainName s = true) :
    ∃ c cs, s.toList = c :: cs ∧ c.isDigit = false ∧ (∀ d ∈ c :: cs, isPlainChar d = true) ∧
      reserved.contains s = false := by
  simp only [isPlainName, Bool.and_eq_true, Bool.not_eq_true'] at h
  obtain ⟨⟨hhead, hall⟩, hfree⟩ := h
  cases hchars : s.toList with
  | nil => simp [hchars] at hhead
  | cons c cs =>
    rw [hchars] at hhead hall
    exact ⟨c, cs, rfl, by simpa using hhead, List.all_eq_true.1 hall, hfree⟩

/-- The token of a plain name takes all of its characters. -/
lemma next_of_isPlainName {c : Char} {cs : List Char} (hchars : s.toList = c :: cs)
    (hdigit : c.isDigit = false) (hplain : ∀ d ∈ c :: cs, isPlainChar d = true)
    (hfree : reserved.contains s = false) : next 1 c cs = .ok (.name s, cs.length) := by
  have hc := hplain c List.mem_cons_self
  have hdot : c ≠ '.' := ne_of_isPlainChar hc (by decide)
  have htail : cs.takeWhile isNameChar = cs := by
    rw [List.takeWhile_eq_self_iff]
    intro d hd
    exact isNameChar_of_isPlainChar (hplain d (List.mem_cons_of_mem c hd))
  have hstranger : strangerIn? (c :: cs) = none := by
    rw [strangerIn?, if_pos (isWordStart_of_isPlainChar hc hdigit), List.find?_eq_none]
    intro d hd
    simp [isWordPart_of_isPlainChar (hplain d (List.mem_cons_of_mem c hd))]
  have hnarrow : (c :: cs).map narrow = c :: cs := by
    conv_rhs => rw [← List.map_id (c :: cs)]
    exact List.map_congr_left fun d hd => narrow_of_isPlainChar (hplain d hd)
  have hword : word (c :: cs) = .ok (.name s) := by
    rw [word, hstranger]
    simp only [hnarrow]
    rw [← hchars, String.ofList_toList, hfree]
    rfl
  unfold next
  simp only [hdigit, hdot, letterCount?_of_isPlainChar hplain, isNameChar_of_isPlainChar hc,
    htail, hword]
  rfl

/-- A plain name is one token. -/
lemma lexemes_of_isPlainName (h : isPlainName s = true) : lexemes s = .ok (nameLexemes s) := by
  obtain ⟨c, cs, hchars, hdigit, hplain, hfree⟩ := exists_chars_of_isPlainName h
  have hc := hplain c List.mem_cons_self
  have hnot : ∀ d : Char, isPlainChar d = false → d ∉ c :: cs :=
    fun d hd hmem => ne_of_isPlainChar (hplain d hmem) hd rfl
  have hne : ∀ d : Char, isPlainChar d = false → c ≠ d :=
    fun d hd => ne_of_isPlainChar hc hd
  have hlines : (cs.take cs.length).count '\n' = 0 := by
    rw [List.take_length, List.count_eq_zero]
    exact List.not_mem_of_not_mem_cons (hnot '\n' (by decide))
  have hscan : scan {} (c :: cs) = .ok (nameLexemes s) := by
    unfold scan
    simp only [isBlank, hne ' ' (by decide), hne '\t' (by decide), hne '\x0c' (by decide),
      hne '#' (by decide), hne '\n' (by decide), hne '\\' (by decide), decide_false, Bool.or_false,
      Bool.false_eq_true, if_false, next_of_isPlainName hchars hdigit hplain hfree, opened, hlines,
      List.drop_length]
    rw [scan]
    rfl
  have hdrop : (c :: cs).dropWhile (fun c => c = ' ' || c = '\t') = c :: cs := by
    rw [List.dropWhile_cons_of_neg]
    simp [hne ' ' (by decide), hne '\t' (by decide)]
  rw [lexemes, hchars, hdrop, allLexemes]
  simp only [String.toList_ofList]
  rw [if_neg, withLines_eq (hnot '\r' (by decide)), hscan]
  simpa using hnot '\x00' (by decide)

end PlainName

/-! ## Names as formulas -/

namespace Reading

/-- Behind something that was read, what is read of the rest. -/
lemma bind_of_ok {α β : Type} {r : Reading α} {f : α → Reading β} {i j : Input} {a : α}
    (h : r i = .ok (a, j)) : (r >>= f) i = f a j := by
  show (r i >>= fun p => f p.1 p.2) = _
  rw [h]
  rfl

end Reading

/-- Where the reading of lexemes begins. -/
def Input.start (ls : List Lexeme) : Input where
  rest := ls
  last := ls.headD Reading.behind
  reach := ls.headD Reading.behind
  size := ls.length

/-- Where the reading of a name begins. -/
def atName (s : String) : Input :=
  .start (nameLexemes s)

/-- Where the reading of a name ends. -/
def behindName (s : String) : Input where
  rest := [⟨.newline, 1, 0, 1⟩, ⟨.finish, 1, 0, 2⟩]
  last := ⟨.name s, 1, 0, 0⟩
  reach := ⟨.newline, 1, 0, 1⟩
  size := 3

namespace Grammar

variable (g : Grammar) (s : String)

/-- A name is a condition. No operation or relation follows it. -/
lemma denied_name : g.denied false (atName s) = .ok (.name s, behindName s) :=
  rfl

/-- A name is a conjunction of one. -/
lemma conjunction_name : g.conjunction false (atName s) = .ok (.name s, behindName s) := by
  unfold conjunction
  rw [bind_of_ok (g.denied_name s)]
  rfl

/-- A name is a disjunction of one. -/
lemma disjunction_name : g.disjunction false (atName s) = .ok (.name s, behindName s) := by
  unfold disjunction
  rw [bind_of_ok (g.conjunction_name s)]
  rfl

/-- A name is a choice without a condition. -/
lemma choice_name : g.choice false false (atName s) = .ok (.name s, behindName s) := by
  unfold Grammar.choice
  rw [bind_of_ok (a := atName s) (j := atName s) rfl,
    bind_of_ok (a := ⟨.name s, 1, 0, 0⟩) (j := atName s) rfl,
    bind_of_ok (a := false) (j := atName s) rfl]
  simp only [Bool.false_eq_true, if_false, pure_bind]
  rw [bind_of_ok (g.disjunction_name s)]
  rfl

/-- A name is a formula inside others. -/
lemma expression_name (depth : Nat) :
    (upTo (depth + 1)).expression false (atName s) = .ok (.name s, behindName s) :=
  (upTo depth).choice_name s

/-- A name is a whole text. -/
lemma whole_name (hg : g.expression false (atName s) = .ok (.name s, behindName s)) :
    ∃ i, g.whole false (atName s) = .ok (.name s, i) ∧ i.doubt = none := by
  unfold whole
  rw [bind_of_ok hg]
  exact ⟨_, rfl, rfl⟩

/-- Lexemes that are read plainly and without a doubt are read. -/
lemma completeBy_of_ok {α : Type} {read : (careful : Bool) → Reading α} {ls : List Lexeme} {a : α}
    {i : Input} (h : read false (.start ls) = .ok (a, i)) (hdoubt : i.doubt = none) :
    completeBy read ls = .ok a := by
  rw [Input.start] at h
  simp only [completeBy, h, hdoubt]

end Grammar

/-- **A plain name is a formula**: the name. -/
theorem parse_of_isPlainName {s : String} (h : isPlainName s = true) :
    parse s = .ok (.name s) := by
  obtain ⟨i, hwhole, hdoubt⟩ := (Grammar.upTo maxNesting).whole_name s
    (Grammar.expression_name s 5975)
  rw [parse, lexemes_of_isPlainName h, readBy]
  simp only [Grammar.completeBy_of_ok hwhole hdoubt]

end Formula

/-- **A plain name stands for what the world has under it.** -/
theorem Formula.gives_evaluate {m : Memory} {keys values : List Datum}
    (hworld : m.content 0 = .record keys values) {s : String} (hname : isPlainName s = true)
    {d : Datum} (hd : Evaluation.namedEntry? s keys values = some d) (known : Vocabulary) :
    (evaluate known s).Gives m (.ok d) := by
  have hparsed : (Evaluator.parsed s).Gives m (.ok (.name s)) := by
    rw [Evaluator.parsed, parse_of_isPlainName hname]
    exact .pure _
  exact hparsed.bind ((Evaluator.gives_point_name s).bind (Evaluator.gives_named hworld hd))

end Nsis
