import Mathlib.Data.List.Basic
import Mathlib.Data.List.Rotate
import Mathlib.Tactic.SplitIfs
import Nsis.Proofs.Bzip2.Machine
import Nsis.Proofs.Bzip2.RoundTrip

/-!
# How data open

Nothing is written before a block was read, and no block is read without its mark and a row that is
not too large. So all data from which something is decoded open with these. Apart from that bound a
row may be anything: blocks whose bytes are all equal show this, since all rows of them are the
same.

## Main definitions

* `Nsis.Bzip2.Opens` — data that open with a mark and a row that is not too large.
* `Nsis.Bzip2.uniform` — a block of equal bytes, with any row.

## Main results

* `Nsis.Bzip2.opens_of_decompress_ne_nil` — how data open from which something is decoded.
* `Nsis.Bzip2.decompress_uniformData` — what is decoded from a block of equal bytes.
-/

namespace Nsis.Bzip2

/-! ## The first four bytes -/

/-- Data that open with the mark of a block and a row whose high byte is below 14. -/
def Opens (data : Bytes) : Prop :=
  ∃ (high middle low : UInt8) (rest : Bytes),
    data = 0x31 :: high :: middle :: low :: rest ∧ high < 0x0e

/-- When no bits are waiting, a byte is read as a byte. -/
lemma BitReader.byte_of_read {word : UInt32} {input : Bytes} {v : Nat} {r : BitReader}
    (h : read 8 ⟨word, 0, input⟩ = (some v, r)) :
    ∃ b rest word', input = b :: rest ∧ v = b.toNat ∧ r = ⟨word', 0, rest⟩ := by
  cases input with
  | nil => simp [read, readFrom] at h
  | cons b rest =>
    have hfield : fieldOf ((word <<< 8) ||| b.toUInt32) 8 8 = b.toNat := by
      have hbits : bitsOf 8 ((word <<< 8) ||| b.toUInt32).toNat =
          bitsOf 0 word.toNat ++ bitsOf 8 b.toNat :=
        bitsOf_shiftIn word b (by decide)
      rw [fieldOf_eq _ le_rfl (by decide), Nat.sub_self, Nat.shiftRight_zero,
        ← ofBits_bitsOf, hbits, bitsOf, List.nil_append, ofBits_bitsOf, Nat.mod_eq_of_lt b.toNat_lt]
    have hread : read 8 ⟨word, 0, b :: rest⟩ =
        (some b.toNat, ⟨(word <<< 8) ||| b.toUInt32, 0, rest⟩) := by
      show readFrom 8 word 0 (b :: rest) = _
      rw [readFrom, if_neg (by decide), readFrom.eq_def, if_pos (by decide), Nat.zero_add, hfield]
    rw [hread] at h
    cases h
    exact ⟨b, rest, _, rfl, rfl, rfl⟩

namespace Phase

/-- The result of reading a block to its end. -/
def ReadsBlock (p : Phase) (r : BitReader) : Prop :=
  ∃ st o r', p.run r = .stopped st (.writing o) r'

/-- A phase that waits for a byte and cannot complete a block gets its byte and goes on. -/
lemma ReadsBlock.byte {p : Phase} {word : UInt32} {input : Bytes}
    (h : p.ReadsBlock ⟨word, 0, input⟩) (hwidth : p.width = 8)
    (hp : ∀ v st o, p.accept v ≠ .stop st (.writing o)) :
    ∃ b rest word' p', input = b :: rest ∧ p.accept b.toNat = .wait p' ∧
      p'.ReadsBlock ⟨word', 0, rest⟩ := by
  obtain ⟨st, o, r', hrun⟩ := h
  rw [run_eq, hwidth] at hrun
  rcases hread : BitReader.read 8 ⟨word, 0, input⟩ with ⟨_ | v, r₁⟩
  · simp [hread] at hrun
  · obtain ⟨b, rest, word', rfl, rfl, rfl⟩ := BitReader.byte_of_read hread
    simp only [hread] at hrun
    cases haccept : p.accept b.toNat with
    | wait p' =>
      simp only [haccept] at hrun
      exact ⟨b, rest, word', p', rfl, haccept, st, o, r', hrun⟩
    | stop st' m =>
      simp only [haccept, Run.stopped.injEq] at hrun
      obtain ⟨rfl, rfl, -⟩ := hrun
      exact absurd haccept (hp _ _ _)

/-- **A block opens with its mark and a row that is not too large.** -/
lemma ReadsBlock.opens {word : UInt32} {data : Bytes} (h : mark.ReadsBlock ⟨word, 0, data⟩) :
    Opens data := by
  have horigin : ∀ left value v st o, (origin left value).accept v ≠ .stop st (.writing o) := by
    intro left value v st o
    cases left with
    | zero =>
      simp only [accept, fail]
      split_ifs <;> simp
    | succ left => simp [accept]
  obtain ⟨b, rest, word₀, p₀, rfl, haccept, h⟩ := h.byte rfl fun v st o => by
    simp only [accept, fail]
    split_ifs <;> simp
  -- the mark is the only byte that is followed by another field
  have hmark : b = 0x31 ∧ p₀ = .origin 2 0 := by
    simp only [accept, fail] at haccept
    split_ifs at haccept with hend hmark
    refine ⟨UInt8.toNat_inj.1 hmark, ?_⟩
    cases haccept
    rfl
  obtain ⟨rfl, rfl⟩ := hmark
  obtain ⟨high, rest, word₁, p₁, rfl, haccept, h⟩ := h.byte rfl (horigin 2 0)
  cases haccept
  obtain ⟨middle, rest, word₂, p₂, rfl, haccept, h⟩ := h.byte rfl (horigin 1 _)
  cases haccept
  obtain ⟨low, rest, word₃, p₃, rfl, haccept, -⟩ := h.byte rfl (horigin 0 _)
  -- the bytes of the row are its digits
  have h₁ := toNat_appendByte 0 (by decide) high.toNat_lt
  have h₂ := toNat_appendByte _ (by rw [h₁]; have := high.toNat_lt; simp; omega) middle.toNat_lt
  have h₃ := toNat_appendByte _ (by
    rw [h₂, h₁]
    have := high.toNat_lt
    have := middle.toNat_lt
    simp
    omega) low.toNat_lt
  have hrow : high.toNat * 2 ^ 16 ≤ maxOrigin := by
    by_contra hlarge
    simp only [accept] at haccept
    rw [if_pos] at haccept
    · simp [fail] at haccept
    · rw [h₃, h₂, h₁]
      simp only [UInt32.toNat_zero]
      omega
  have hmax : maxOrigin = 900010 := rfl
  exact ⟨high, middle, low, rest, rfl, UInt8.lt_iff_toNat_lt.2 (by simp; omega)⟩

end Phase

/-- **Data from which something is decoded open with a mark and a row that is not too large.** -/
theorem opens_of_decompress_ne_nil {data : Bytes} (h : decompress data ≠ []) : Opens data := by
  by_contra hopens
  have hrun : ¬ Phase.mark.ReadsBlock ⟨0, 0, data⟩ := fun hreads => hopens hreads.opens
  -- the first call then writes nothing
  have hwritten : ((Stream.setInput {} data).setRoom bufferSize).call.written = #[] := by
    rw [Stream.call, Stream.loop_of_reading rfl]
    cases hr : Phase.mark.run ⟨0, 0, data⟩ with
    | starved p r =>
      simp only [Stream.setInput, Stream.setRoom, hr]
    | stopped st m r =>
      simp only [Stream.setInput, Stream.setRoom, hr]
      cases m with
      | writing o => exact absurd ⟨st, o, r, hr⟩ hrun
      | _ => cases st <;> rfl
  apply h
  rw [decompress, decompressFrom_eq_answer, Call.answer, if_pos hwritten, ite_self]

/-! ## Blocks of equal bytes -/

/-- All rotations of equal bytes are the same. -/
lemma rows_replicate {n : Nat} (hn : n ≠ 0) (b : UInt8) :
    rows (List.replicate n b) = List.replicate n (List.replicate n b) := by
  have hne : List.replicate n b ≠ [] := by simpa using hn
  rw [List.eq_replicate_iff]
  refine ⟨by rw [length_rows hne, List.length_replicate], fun r hr => ?_⟩
  have hrotated := List.mem_cyclicPermutations_iff.1 ((rows_perm _).mem_iff.1 hr)
  exact List.perm_replicate.1 hrotated.perm

/-- The last column of equal bytes are these bytes. -/
lemma lastColumn_replicate {n : Nat} (hn : n ≠ 0) (b : UInt8) :
    lastColumn (List.replicate n b) = List.replicate n b := by
  obtain ⟨n, rfl⟩ := Nat.exists_eq_succ_of_ne_zero hn
  have hlast : (List.replicate (n + 1) b).getLastD 0 = b := by
    rw [List.replicate_succ', List.getLastD_concat]
  rw [lastColumn, rows_replicate hn, List.map_replicate, hlast]

/-- The block has one byte in use. -/
lemma usedBytes_uniform : usedBytes (List.replicate 130 1) = [1] := by
  simp only [usedBytes, List.mem_replicate]
  decide +kernel

/-- The map of the block has one range with one byte. -/
lemma mapBits_uniform :
    mapBits (List.replicate 130 1) = bitsOf 16 0x8000 ++ bitsOf 16 0x4000 := by
  have hoccurs : occurs (List.replicate 130 1) = fun range =>
      (Phase.bytesOfRange range).any (· = 1) := by
    funext range
    simp [occurs]
  simp only [mapBits, hoccurs, List.mem_replicate]
  decide +kernel

/-- The symbols of the block are the digits of a run of 129 and the end. -/
lemma symbols_uniform : symbols (List.replicate 130 1) = [1, 1, 0, 0, 0, 0, 0, 2] := by
  rw [symbols, usedBytes_uniform, lastColumn_replicate (by decide)]
  decide +kernel

/-- A block of 130 equal bytes, with any of its rows. -/
def uniform (row : Nat) (hrow : row < 130) : Block where
  contents := List.replicate 130 1
  contents_ne := by decide
  length_contents := by
    rw [List.length_replicate]
    decide
  expansion := List.replicate 130 1
  expand_contents := by decide +kernel
  origin := row
  row_origin := by
    rw [rows_replicate (by decide), List.getElem?_replicate_of_lt hrow]
  codes := [[2, 2, 2], [2, 2, 2]]
  length_codes := by decide
  length_code := by
    rw [usedBytes_uniform]
    decide
  code_range := by decide
  code_kraft := by decide
  selectors := [0]
  selector_lt := by decide
  length_selectors := by decide
  selectors_enough := by
    rw [symbols_uniform]
    decide

/-- The bytes of such a block behind its row, and of the end of the data. -/
def uniformRest : Bytes :=
  [0x80, 0x00, 0x40, 0x00, 0x40, 0x00, 0x42, 0x02, 0x0a, 0x00, 0x42, 0xe0]

/-- The bytes of such a block and of the end of the data. -/
def uniformData (row : UInt8) : Bytes :=
  0x31 :: 0x00 :: 0x00 :: row :: uniformRest

/-- **What is decoded from a block of equal bytes**, whatever its row. -/
theorem decompress_uniformData {row : UInt8} (hrow : row < 130) :
    decompress (uniformData row) = List.replicate 130 1 := by
  have hbits : toBits (uniformData row) =
      serialise [uniform row.toNat (UInt8.lt_iff_toNat_lt.1 hrow)] ++ bitsOf 5 0 := by
    have hrow' : bitsOf 24 row.toNat = bitsOf 8 0 ++ (bitsOf 8 0 ++ bitsOf 8 row.toNat) := by
      have hlt := row.toNat_lt
      rw [bitsOf_add 8 16 row.toNat, bitsOf_add 8 8 row.toNat, Nat.shiftRight_eq_div_pow,
        Nat.shiftRight_eq_div_pow, Nat.div_eq_of_lt hlt, Nat.div_eq_of_lt (hlt.trans (by decide))]
    have hrest : bitsOf 16 0x8000 ++ bitsOf 16 0x4000 ++ ((bitsOf 3 2 ++ bitsOf 15 1) ++
        ((moveToFront (List.range 2) [0]).flatMap unary ++
          [[2, 2, 2], [2, 2, 2]].flatMap tableBits)) ++
        symbolBits [[2, 2, 2], [2, 2, 2]] [0] 0 [1, 1, 0, 0, 0, 0, 0, 2] ++ bitsOf 8 endMark ++
        bitsOf 5 0 = toBits uniformRest := by
      decide +kernel
    simp only [serialise, List.flatMap_cons, List.flatMap_nil, List.append_nil, Block.bits,
      Block.headBits, uniform, symbols_uniform, mapBits_uniform, hrow']
    simp only [uniformData, toBits_cons, ← hrest, List.append_assoc]
    rfl
  obtain ⟨hstatus, houtput⟩ :=
    verdict_serialise [uniform row.toNat _] (r := ⟨0, 0, uniformData row⟩)
    (Nat.zero_le _) hbits
  have h := decompressFrom_eq (Stream.setInput {} (uniformData row)) #[] hstatus
  rw [decompress, h]
  exact houtput

end Nsis.Bzip2
