import Mathlib.Data.List.Basic
import Nsis.Deflate.Inflate

/-!
# What follows a deflate stream

A deflate stream says where it ends. Each part of it is read without a look at what follows: a
reader that succeeds does the same with more input, and leaves that input to the readers after it.
So inflating a byte string that holds a whole stream does not depend on the bytes behind the stream,
and a stream that was cut off is never taken for a shorter one.

## Main definitions

* `Nsis.Deflate.Source.append` — a source with more input.

## Main results

* `Nsis.Deflate.blocks_append` — the blocks of a stream are read without a look at what follows.
* `Nsis.Deflate.inflate_append` — so is the stream.
-/

namespace Nsis.Deflate

namespace Source

/-- A source with more input behind its own. -/
def append (s : Source) (more : Bytes) : Source :=
  { s with input := s.input ++ more }

/-- Going on to the next byte has nothing to do with what stands behind. -/
lemma align_append (s : Source) (more : Bytes) : (s.append more).align = s.align.append more := rfl

/-- A bit is read alike, whatever stands behind. -/
lemma bit_append {s s' : Source} {b : Nat} (h : s.bit = some (b, s')) (more : Bytes) :
    (s.append more).bit = some (b, s'.append more) := by
  obtain ⟨byte, live, input⟩ := s
  cases live with
  | succ live =>
    cases h
    rfl
  | zero =>
    cases input with
    | nil => cases h
    | cons c input =>
      cases h
      rfl

/-- A number is read alike, whatever stands behind. -/
lemma number_append {n v : Nat} {s s' : Source} (h : s.number n = some (v, s')) (more : Bytes) :
    (s.append more).number n = some (v, s'.append more) := by
  induction n generalizing s v with
  | zero =>
    cases h
    rfl
  | succ n ih =>
    rw [number] at h ⊢
    split at h
    · cases h
    · rename_i b s₁ hbit
      rw [bit_append hbit]
      split at h
      · cases h
      · rename_i w s₂ hnumber
        cases h
        simp only [ih hnumber]

end Source

/-- The search of a symbol ends alike, whatever stands behind. -/
lemma Code.symbolFrom_append {c : Code} {n length code first rank sym : Nat} {s s' : Source}
    (h : c.symbolFrom n length code first rank s = some (sym, s')) (more : Bytes) :
    c.symbolFrom n length code first rank (s.append more) = some (sym, s'.append more) := by
  induction n generalizing length code first rank s with
  | zero => cases h
  | succ n ih =>
    rw [symbolFrom] at h ⊢
    split at h
    · cases h
    · rename_i b s₁ hbit
      simp only [Source.bit_append hbit] at h ⊢
      split_ifs at h ⊢
      · split at h
        · cases h
        · cases h
          rfl
      · exact ih h

/-- A symbol is read alike, whatever stands behind. -/
lemma Code.symbol_append {c : Code} {sym : Nat} {s s' : Source} (h : c.symbol s = some (sym, s'))
    (more : Bytes) : c.symbol (s.append more) = some (sym, s'.append more) :=
  symbolFrom_append h more

/-! ## The codes of a block -/

/-- Numbers are read alike, whatever stands behind. -/
lemma numbers_append {width n : Nat} {s s' : Source} {vs : List Nat}
    (h : numbers width n s = some (vs, s')) (more : Bytes) :
    numbers width n (s.append more) = some (vs, s'.append more) := by
  induction n generalizing s vs with
  | zero =>
    cases h
    rfl
  | succ n ih =>
    simp only [numbers, Option.bind_eq_bind, Option.bind_eq_some_iff, Prod.exists] at h ⊢
    obtain ⟨v, s₁, hnumber, ws, s₂, hnumbers, h⟩ := h
    cases h
    exact ⟨v, _, Source.number_append hnumber more, ws, _, ih hnumbers, rfl⟩

/-- Code lengths are read alike, whatever stands behind. -/
lemma readLengths_append {c : Code} {total : Nat} {lengths lengths' : Array Nat} {s s' : Source}
    (h : readLengths c total lengths s = some (lengths', s')) (more : Bytes) :
    readLengths c total lengths (s.append more) = some (lengths', s'.append more) := by
  fun_induction readLengths c total lengths s with
  | case1 lengths s hle =>
    cases h
    rw [readLengths, if_pos hle]
  | case6 lengths s hlt sym s₁ hsymbol length least extra hrepeat count s₂ hnumber hfit ih =>
    have hsymbol' := Code.symbol_append hsymbol more
    have hnumber' := Source.number_append hnumber more
    rw [readLengths, if_neg hlt]
    split
    · rename_i hnone
      cases hsymbol'.symm.trans hnone
    · rename_i hsome
      cases hsymbol'.symm.trans hsome
      simp only [hrepeat]
      split
      · rename_i hnone
        cases hnumber'.symm.trans hnone
      · rename_i hsome
        cases hnumber'.symm.trans hsome
        rw [if_neg hfit]
        exact ih h
  | _ => cases h

/-- The codes of a block are read alike, whatever stands behind. -/
lemma readCodes_append {s s' : Source} {lit dist : Code} (h : readCodes s = some (lit, dist, s'))
    (more : Bytes) : readCodes (s.append more) = some (lit, dist, s'.append more) := by
  simp only [readCodes, Option.bind_eq_bind, Option.bind_eq_some_iff, Prod.exists] at h ⊢
  obtain ⟨nlit, s₁, h₁, ndist, s₂, h₂, nlen, s₃, h₃, ls, s₄, h₄, code, hcode, lengths, s₅, h₅, l, d,
      hcodes, h⟩ := h
  cases h
  exact ⟨nlit, _, Source.number_append h₁ more, ndist, _, Source.number_append h₂ more, nlen, _,
    Source.number_append h₃ more, ls, _, numbers_append h₄ more, code, hcode, lengths, _,
    readLengths_append h₅ more, lit, dist, hcodes, rfl⟩

/-! ## The contents of a block -/

/-- A copy is read alike, whatever stands behind. -/
lemma readCopy_append {dist : Code} {sym l d : Nat} {s s' : Source}
    (h : readCopy dist sym s = some (l, d, s')) (more : Bytes) :
    readCopy dist sym (s.append more) = some (l, d, s'.append more) := by
  rw [readCopy] at h ⊢
  split at h
  · cases h
  · rename_i length extra hentry
    split at h
    · cases h
    · rename_i s₁ hnumber
      split at h
      · cases h
      · rename_i dsym s₂ hsymbol
        split at h
        · cases h
        · rename_i distance dextra hdistance
          split at h
          · cases h
          · rename_i s₃ hmore
            cases h
            simp only [Source.number_append hnumber, Code.symbol_append hsymbol, hdistance,
              Source.number_append hmore]

/-- What a coded block makes of its next symbol. -/
lemma coded_of_symbol {lit dist : Code} {s s₁ : Source} {sym : Nat}
    (h : lit.symbol s = some (sym, s₁)) (out : Array UInt8) :
    coded lit dist s out =
      if sym < endOfBlock then coded lit dist s₁ (out.push (UInt8.ofNat sym))
      else if sym = endOfBlock then some (s₁, out)
      else (readCopy dist sym s₁).bind fun copy =>
        if out.size < copy.2.1 then none
        else (copyBack copy.2.1 copy.1 out).bind fun out => coded lit dist copy.2.2 out := by
  rw [coded]
  split
  · rename_i hnone
    cases h.symm.trans hnone
  · rename_i hsome
    cases h.symm.trans hsome
    split_ifs
    · rfl
    · rfl
    · split
      · rename_i hcopy
        rw [hcopy]
        rfl
      · rename_i length distance s₂ hcopy
        rw [hcopy, Option.bind_some]
        cases copyBack distance length out with
        | none => rfl
        | some out => rfl

/-- A coded block is read alike, whatever stands behind. -/
lemma coded_append {lit dist : Code} {s s' : Source} {out out' : Array UInt8}
    (h : coded lit dist s out = some (s', out')) (more : Bytes) :
    coded lit dist (s.append more) out = some (s'.append more, out') := by
  fun_induction coded lit dist s out with
  | case2 s out sym s₁ hsymbol hlit ih =>
    rw [coded_of_symbol (Code.symbol_append hsymbol more), if_pos hlit]
    exact ih h
  | case3 s out s₁ hsymbol =>
    cases h
    rw [coded_of_symbol (Code.symbol_append hsymbol more), if_neg (Nat.lt_irrefl _), if_pos rfl]
  | case7 s out sym s₁ hsymbol hlit hend length distance s₂ hcopy hfar out₁ hout ih =>
    rw [coded_of_symbol (Code.symbol_append hsymbol more), if_neg hlit, if_neg hend,
      readCopy_append hcopy, Option.bind_some, if_neg hfar, hout, Option.bind_some]
    exact ih h
  | _ => cases h

/-- A stored block is read alike, whatever stands behind. -/
lemma stored_append {s s' : Source} {out out' : Array UInt8} (h : stored s out = some (s', out'))
    (more : Bytes) : stored (s.append more) out = some (s'.append more, out') := by
  rw [stored] at h ⊢
  split at h
  · cases h
  · rename_i length s₁ hlength
    split at h
    · cases h
    · rename_i check s₂ hcheck
      simp only at h
      split_ifs at h with hbad
      cases h
      have hle : length ≤ s₂.input.length := by
        rw [not_or, Nat.not_lt, List.length_take] at hbad
        omega
      have htake : (s₂.append more).input.take length = s₂.input.take length :=
        List.take_append_of_le_length hle
      have hdrop : (s₂.append more).input.drop length = s₂.input.drop length ++ more :=
        List.drop_append_of_le_length hle
      simp only [Source.align_append, Source.number_append hlength, Source.number_append hcheck,
        htake, hdrop, if_neg hbad]
      rfl

/-- The contents of a block are read alike, whatever stands behind. -/
lemma contents_append {kind : Nat} {s s' : Source} {out out' : Array UInt8}
    (h : contents kind s out = some (s', out')) (more : Bytes) :
    contents kind (s.append more) out = some (s'.append more, out') := by
  rw [contents.eq_def] at h ⊢
  split at h
  · exact stored_append h more
  · exact coded_append h more
  · split at h
    · cases h
    · rename_i hcodes
      simp only [readCodes_append hcodes]
      exact coded_append h more
  · cases h

/-! ## Streams -/

/-- What a stream makes of its next block. -/
lemma blocks_of_contents {s s₁ s₂ s₃ : Source} {final kind : Nat} {out out₁ : Array UInt8}
    (hfinal : s.number 1 = some (final, s₁)) (hkind : s₁.number 2 = some (kind, s₂))
    (hcontents : contents kind s₂ out = some (s₃, out₁)) :
    blocks s out = if final = 1 then some (s₃, out₁) else blocks s₃ out₁ := by
  rw [blocks]
  split
  · rename_i hnone
    cases hfinal.symm.trans hnone
  · rename_i hsome
    cases hfinal.symm.trans hsome
    split
    · rename_i hnone
      cases hkind.symm.trans hnone
    · rename_i hsome
      cases hkind.symm.trans hsome
      split
      · rename_i hnone
        cases hcontents.symm.trans hnone
      · rename_i hsome
        cases hcontents.symm.trans hsome
        rfl

/-- **The blocks of a stream are read without a look at what follows.** -/
theorem blocks_append {s s' : Source} {out out' : Array UInt8} (h : blocks s out = some (s', out'))
    (more : Bytes) : blocks (s.append more) out = some (s'.append more, out') := by
  fun_induction blocks s out with
  | case4 s out s₁ kind s₂ hkind s₃ out₁ hcontents hfinal =>
    cases h
    rw [blocks_of_contents (Source.number_append hfinal more) (Source.number_append hkind more)
      (contents_append hcontents more), if_pos rfl]
  | case5 s out final s₁ hfinal kind s₂ hkind s₃ out₁ hcontents hlast ih =>
    rw [blocks_of_contents (Source.number_append hfinal more) (Source.number_append hkind more)
      (contents_append hcontents more), if_neg hlast]
    exact ih h
  | _ => cases h

/-- **What follows a deflate stream does not matter.** -/
theorem inflate_append {data out : Bytes} (h : inflate data = .ok out) (more : Bytes) :
    inflate (data ++ more) = .ok out := by
  rw [inflate] at h ⊢
  split at h
  · rename_i hblocks
    cases h
    have hmore := blocks_append hblocks more
    rw [show (Source.append { input := data } more) = { input := data ++ more } from rfl] at hmore
    rw [hmore]
  · cases h

end Nsis.Deflate
