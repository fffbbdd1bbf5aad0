import Nsis.Proofs.Installer.Independence
import Nsis.Proofs.Installer.Listing
import Nsis.Proofs.Script.Loading

/-!
# The pieces of the block of strings

Stored strings are listed by a walk through their block: the string at an offset is taken up to the
next zero byte, and the walk goes on one byte behind it. Zero bytes may stand at the start, next to
each other, or not at the end. In each case the strings are the pieces between zero bytes, and no
other byte is lost or listed twice. The coding of an installer follows from the first bytes of the
pieces.

## Main definitions

* `Nsis.Strings.Splits` — the walk that lists stored strings, with the offsets of their first bytes.

## Main results

* `Nsis.Strings.raws_eq_splitOn` — stored strings are the pieces between zero bytes.
* `Nsis.Strings.exists_splits` — the listing of stored strings is that of the walk.
* `Nsis.Strings.Splits.existsUnique` — every byte but zero is in exactly one of the strings, at its
  place.
* `Nsis.Session.raws_are_pieces` — what an installer lists, and which coding follows from it.
-/

namespace Nsis

namespace Strings

/-! ## The pieces of a block -/

/-- The first piece of a block is its first string, and the others are those of what stands behind
the zero byte that closes it. -/
lemma filter_splitOn (block : Bytes) :
    (block.splitOn 0).filter (· ≠ []) = [leading block].filter (· ≠ []) ++
      ((block.drop ((leading block).length + 1)).splitOn 0).filter (· ≠ []) := by
  have hzero := zero_notMem_leading block
  rcases eq_leading_or block with ⟨heq, hdrop⟩ | heq
  · have hsplit : block.splitOn 0 = [leading block] := by
      nth_rewrite 1 [heq]
      exact List.splitOn_eq_singleton hzero
    rw [hsplit, hdrop, List.splitOn_nil]
    simp
  · have hsplit : block.splitOn 0 = leading block ::
        (block.drop ((leading block).length + 1)).splitOn 0 := by
      nth_rewrite 1 [heq]
      exact List.splitOn_append_cons_self_of_not_mem hzero _
    rw [hsplit, ← List.singleton_append, List.filter_append]

/-- **Stored strings are the pieces between zero bytes**, without empty ones. -/
lemma raws_eq_splitOn (block : Bytes) : raws block = (block.splitOn 0).filter (· ≠ []) := by
  fun_induction raws block with
  | case1 block hempty =>
    rw [List.isEmpty_iff.1 hempty]
    rfl
  | case2 block hempty s rest hs ih =>
    have hnil : leading block = [] := List.isEmpty_iff.1 hs
    rw [filter_splitOn, ← ih]
    simp [hnil, rest, s]
  | case3 block hempty s rest hs ih =>
    have hne : leading block ≠ [] := fun h => hs (List.isEmpty_iff.2 h)
    rw [filter_splitOn, ← ih]
    simp [hne, rest, s]

/-! ## The walk -/

/-- The walk through a block from an offset on that lists its stored strings with the offsets of
their first bytes. In each round the string at the offset is taken, and the walk goes on one byte
behind it. -/
inductive Splits (block : Bytes) : (offset : Nat) → List (Nat × Bytes) → Prop
  /-- The end of the block was reached. -/
  | finish {offset : Nat} (h : block.length ≤ offset) : Splits block offset []
  /-- An empty string is passed over. -/
  | empty {offset : Nat} {placed : List (Nat × Bytes)} (h : offset < block.length)
      (hempty : rawAt block offset = [])
      (hrest : Splits block (offset + 1) placed) : Splits block offset placed
  /-- One more string is listed. -/
  | string {offset : Nat} {placed : List (Nat × Bytes)} (h : offset < block.length)
      (hne : rawAt block offset ≠ [])
      (hrest : Splits block (offset + (rawAt block offset).length + 1) placed) :
      Splits block offset ((offset, rawAt block offset) :: placed)

/-- The string at a natural offset goes up to the first zero byte from there on. -/
lemma rawAt_natCast (block : Bytes) (offset : Nat) :
    rawAt block offset = leading (block.drop offset) := by
  rw [rawAt, Signed.suffix, Signed.place, if_neg (by omega), Int.toNat_natCast]

/-- The byte behind the string at the start of data is zero. -/
lemma eq_zero_of_behind_leading {data : Bytes} {b : UInt8}
    (h : data[(leading data).length]? = some b) : b = 0 := by
  rcases eq_leading_or data with ⟨heq, -⟩ | heq
  · rw [← heq, List.getElem?_eq_none le_rfl] at h
    cases h
  · rw [heq, List.getElem?_append_right (by rw [← heq]), ← heq, Nat.sub_self] at h
    exact (Option.some.inj h).symm

/-- **The listing of stored strings is that of the walk**, which therefore comes to an end. -/
lemma exists_splits (block : Bytes) (offset : Nat) :
    ∃ placed, Splits block offset placed ∧ placed.map (·.2) = raws (block.drop offset) := by
  generalize hdata : block.drop offset = data
  fun_induction raws data generalizing offset with
  | case1 data hempty =>
    refine ⟨[], .finish ?_, rfl⟩
    rwa [← hdata, List.isEmpty_iff, List.drop_eq_nil_iff] at hempty
  | case2 data hempty s rest hs ih =>
    subst hdata
    have hraw : rawAt block offset = s := rawAt_natCast block offset
    have hlt : offset < block.length := by simpa using hempty
    obtain ⟨placed, hplaced, hmap⟩ :=
      ih (offset + s.length + 1) (by rw [List.drop_drop, Nat.add_assoc])
    rw [List.isEmpty_iff] at hs
    rw [hs] at hplaced
    exact ⟨placed, .empty hlt (hraw.trans hs) hplaced, hmap⟩
  | case3 data hempty s rest hs ih =>
    subst hdata
    have hraw : rawAt block offset = s := rawAt_natCast block offset
    have hlt : offset < block.length := by simpa using hempty
    obtain ⟨placed, hplaced, hmap⟩ :=
      ih (offset + s.length + 1) (by rw [List.drop_drop, Nat.add_assoc])
    rw [List.isEmpty_iff] at hs
    rw [← hraw] at hs hplaced
    exact ⟨_, .string hlt hs hplaced, by rw [List.map_cons, hmap, hraw]⟩

namespace Splits

variable {block : Bytes} {offset : Nat} {placed : List (Nat × Bytes)}

/-- The strings stand in the block where they are listed, from the offset on. -/
lemma take_drop_eq (h : Splits block offset placed) :
    ∀ p ∈ placed, offset ≤ p.1 ∧ (block.drop p.1).take p.2.length = p.2 := by
  induction h with
  | finish h => simp
  | empty h hempty hrest ih =>
    intro p hp
    obtain ⟨hle, htake⟩ := ih p hp
    exact ⟨by omega, htake⟩
  | @string offset placed h hne hrest ih =>
    rw [List.forall_mem_cons]
    refine ⟨⟨le_rfl, ?_⟩, fun p hp => ?_⟩
    · rw [rawAt_natCast]
      exact List.prefix_iff_eq_take.1 (List.takeWhile_prefix _) |>.symm
    · obtain ⟨hle, htake⟩ := ih p hp
      exact ⟨by omega, htake⟩

/-- The strings stand apart from each other, in their order. -/
lemma apart (h : Splits block offset placed) : placed.Pairwise fun p q =>
    p.1 + p.2.length < q.1 := by
  induction h with
  | finish h => exact .nil
  | empty h hempty hrest ih => exact ih
  | string h hne hrest ih =>
    exact .cons (fun p hp => Nat.lt_of_succ_le (hrest.take_drop_eq p hp).1) ih

/-- The byte behind the string at an offset is zero. -/
lemma eq_zero_of_behind {b : UInt8} (hb : block[offset + (rawAt block offset).length]? = some b) :
    b = 0 := by
  rw [rawAt_natCast, ← List.getElem?_drop] at hb
  exact eq_zero_of_behind_leading hb

/-- Every byte but zero is in one of the strings, at its place. -/
lemma exists_mem (h : Splits block offset placed) {i : Nat} {b : UInt8} (hi : offset ≤ i)
    (hb : block[i]? = some b) (hzero : b ≠ 0) : ∃ p ∈ placed, p.1 ≤ i ∧ p.2[i - p.1]? = some b := by
  induction h with
  | finish h =>
    rw [List.getElem?_eq_none (by omega)] at hb
    cases hb
  | @empty offset placed h hempty hrest ih =>
    have hbehind : i ≠ offset := by
      rintro rfl
      exact hzero (eq_zero_of_behind (by rwa [hempty]))
    exact ih (by omega)
  | @string offset placed h hne hrest ih =>
    by_cases hinside : i < offset + (rawAt block offset).length
    · refine ⟨_, List.mem_cons_self, hi, ?_⟩
      have hlt : i - offset < (rawAt block offset).length := by omega
      have hplace := List.getElem?_take_of_lt (l := block.drop offset) hlt
      have htake := ((Splits.string h hne hrest).take_drop_eq _ List.mem_cons_self).2
      rw [htake, List.getElem?_drop, Nat.add_sub_cancel' hi, hb] at hplace
      exact hplace
    · have hbehind : i ≠ offset + (rawAt block offset).length := by
        rintro rfl
        exact hzero (eq_zero_of_behind hb)
      obtain ⟨p, hp, hplace⟩ := ih (by omega)
      exact ⟨p, List.mem_cons_of_mem _ hp, hplace⟩

/-- **Every byte but zero is in exactly one of the strings**, at its place. -/
lemma existsUnique (h : Splits block offset placed) {i : Nat} {b : UInt8} (hi : offset ≤ i)
    (hb : block[i]? = some b) (hzero : b ≠ 0) :
    ∃! p, p ∈ placed ∧ p.1 ≤ i ∧ p.2[i - p.1]? = some b := by
  obtain ⟨p, hp, hle, hplace⟩ := h.exists_mem hi hb hzero
  refine ⟨p, ⟨hp, hle, hplace⟩, ?_⟩
  rintro q ⟨hq, hle', hplace'⟩
  -- two strings that both have this place would not stand apart
  have hlt := (List.getElem?_eq_some_iff.1 hplace).1
  have hlt' := (List.getElem?_eq_some_iff.1 hplace').1
  have hapart := List.pairwise_iff_getElem.1 h.apart
  obtain ⟨m, hm, rfl⟩ := List.mem_iff_getElem.1 hp
  obtain ⟨n, hn, rfl⟩ := List.mem_iff_getElem.1 hq
  rcases Nat.lt_trichotomy m n with hmn | rfl | hnm
  · have := hapart m n hm hn hmn
    omega
  · rfl
  · have := hapart n m hn hm hnm
    omega

end Splits

/-! ## The coding -/

/-- Strings suggest version 2 exactly if more of them begin with a byte from 252 on than with a byte
up to 4. -/
lemma version_vote (rs : List Bytes) :
    (vote rs).version = "2" ↔
      rs.countP (fun r => r.head?.any (· ≤ 4)) < rs.countP (fun r => r.head?.any (252 ≤ ·)) := by
  rw [vote, countLeading, countLeading]
  split_ifs with h
  · exact ⟨fun _ => h, fun _ => rfl⟩
  · exact ⟨fun hversion => absurd hversion (by decide), fun hmore => absurd hmore h⟩

end Strings

/-- The block of strings of an installer that was read, whose pieces suggest its coding. -/
lemma Installer.strings_of_read {f : File} {i : Installer} (h : Installer.read f = .ok i) :
    ∃ block, i.image.block BlockId.strings = .ok block ∧
      i.codes = Strings.vote (Strings.raws block) := by
  obtain ⟨f', first, -, hi⟩ := exists_extract_of_read h
  simp only [ofImage, Fault.bind_eq_ok] at hi
  obtain ⟨strings, hstrings, unicode, -, block, -, pages, -, block, -, sections, -, block, -,
      entries, -, hi⟩ := hi
  generalize i.image = image at *
  cases hi
  exact ⟨strings, hstrings, rfl⟩

/-- **Stored strings are the pieces of their block**, for every session with an installer. The
listing comes to an end with the pieces between zero bytes, without empty ones, in their order; each
stands in the block at the place where the walk found it, apart from the others, and every byte but
zero is in exactly one of them, at its place. The coding of the installer is the one with high codes
exactly if more of them begin with a byte from 252 on than with a byte up to 4. -/
theorem Session.raws_are_pieces {f : File} {s : Session} (hs : Reached f s) :
    ∃ (block : Bytes) (rs : List Bytes) (placed : List (Nat × Bytes)),
      (s.ask (.block BlockId.strings)).1 = .ok (.bytes block) ∧ (s.ask .raws).1 = .ok (.raws rs) ∧
      rs = (block.splitOn 0).filter (· ≠ []) ∧ Strings.Splits block 0 placed ∧
        rs = placed.map (·.2) ∧
      placed.Pairwise (fun p q => p.1 + p.2.length < q.1) ∧
      (∀ p ∈ placed, (block.drop p.1).take p.2.length = p.2) ∧
      (∀ i b, block[i]? = some b → b ≠ 0 → ∃! p, p ∈ placed ∧ p.1 ≤ i ∧ p.2[i - p.1]? = some b) ∧
      (s.installer.codes.version = "2" ↔
        rs.countP (fun r => r.head?.any (· ≤ 4)) < rs.countP (fun r => r.head?.any (252 ≤ ·))) := by
  obtain ⟨hfaithful, hread⟩ := hs.sound
  obtain ⟨block, hblock, hcodes⟩ := Installer.strings_of_read hread
  obtain ⟨placed, hplaced, hmap⟩ := Strings.exists_splits block 0
  rw [List.drop_zero] at hmap
  refine ⟨block, Strings.raws block, placed, ?_, ?_, Strings.raws_eq_splitOn block, hplaced,
    hmap.symm, hplaced.apart, fun p hp => (hplaced.take_drop_eq p hp).2,
    fun i b hb hzero => hplaced.existsUnique (Nat.zero_le i) hb hzero, ?_⟩
  · rw [hfaithful.ask_fst, Image.answer, hblock]
    rfl
  · rw [hfaithful.ask_fst, Image.answer, hblock]
    rfl
  · rw [hcodes]
    exact Strings.version_vote (Strings.raws block)

/-- An installer whose strings suggest version 2: one of its two pieces begins with a high code, and
none with a low one. -/
theorem Session.raws_of_highCodes :
    ∃ s, Reached ⟨highCodes.content, 0⟩ s ∧
      (s.ask .raws).1 = .ok (.raws [[0xfd, 0x95, 0x80, 0x2e], [0x41, 0x42]]) ∧
        s.installer.codes.version = "2" := by
  obtain ⟨s, hs, -, -, hblock⟩ := exists_reached_highCodes
  obtain ⟨block, rs, -, hask, hraws, rfl, -, -, -, -, -, hversion⟩ := raws_are_pieces hs
  rw [ask, hblock] at hask
  obtain rfl := Answer.bytes.inj (Except.ok.inj hask)
  exact ⟨s, hs, hraws, hversion.2 (by decide)⟩

end Nsis
