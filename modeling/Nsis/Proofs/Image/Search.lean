import Nsis.Proofs.Image.Records

/-!
# Searching for the first header

A file is searched for the first header chunk by chunk. Chunks are full, except for the last one,
which may still have room for a first header or be too short for it. So the search looks at every
aligned place with room for a first header until it finds one, and otherwise reads the file to its
end.

## Main definitions

* `Nsis.FirstHeader.StandsAt` — a first header stands at a place of data.
* `Nsis.FirstHeader.toBytes` — the bytes of a first header.
* `Nsis.FirstHeader.Searches` — the search in a file, chunk by chunk.

## Main results

* `Nsis.FirstHeader.isValid_ofChunk_iff` — a chunk is accepted exactly if a first header stands at
  its start.
* `Nsis.FirstHeader.search_eq` — what the search of data gives.
* `Nsis.FirstHeader.find_least_aligned` — what the search of a file gives.
-/

namespace Nsis.FirstHeader

open Bytes

/-- A first header stands at a place of data: there is room for it, and behind its flags stand the
signature, with its least significant byte first, and the magic text. -/
def StandsAt (data : Bytes) (place : Nat) : Prop :=
  place + 28 ≤ data.length ∧
    (data.drop (place + 4)).take 16 = [0xef, 0xbe, 0xad, 0xde] ++ expectedMagic

/-- Whether a first header stands at a place can be computed. -/
instance (data : Bytes) (place : Nat) : Decidable (StandsAt data place) :=
  inferInstanceAs (Decidable (_ ∧ _))

/-- The bytes of a first header. -/
def toBytes (h : FirstHeader) : Bytes :=
  ofWord h.flags ++ ofWord h.signature ++ h.magic ++ ofWord h.unpackedSize ++ ofWord h.packedSize

/-! ## One chunk -/

/-- What stands behind some bytes stands further on in all of them. -/
lemma standsAt_drop (data : Bytes) (n place : Nat) :
    StandsAt (data.drop n) place ↔ StandsAt data (n + place) := by
  rw [StandsAt, StandsAt, List.length_drop, List.drop_drop, Nat.add_assoc n place 4]
  refine and_congr_left fun _ => ?_
  omega

/-- A chunk has a first header at its start exactly if the data that it is taken from have. -/
lemma standsAt_take_zero (data : Bytes) : StandsAt (data.take alignment) 0 ↔ StandsAt data 0 := by
  rw [StandsAt, StandsAt, List.length_take, List.drop_take, List.take_take, alignment]
  refine and_congr_left fun _ => ?_
  omega

/-- **A chunk is accepted** exactly if a first header stands at its start. -/
lemma isValid_ofChunk_iff {chunk : Bytes} (h : size ≤ chunk.length) (offset : Nat) :
    (ofChunk chunk offset).isValid = true ↔ StandsAt chunk 0 := by
  rw [size] at h
  have hword : chunk.word 4 = expectedSignature ↔
      (chunk.drop 4).take 4 = [0xef, 0xbe, 0xad, 0xde] := by
    rw [← ofWord_word (by omega)]
    constructor
    · intro hsignature
      rw [hsignature]
      decide
    · intro hbytes
      have hvalue := congrArg value hbytes
      rw [value_ofWord] at hvalue
      exact UInt32.toNat_inj.1 hvalue
  have hsplit : (chunk.drop 4).take 16 = (chunk.drop 4).take 4 ++ (chunk.drop 8).take 12 := by
    rw [← List.drop_drop (i := 4) (j := 4), ← List.take_add]
  have hlength : ((chunk.drop 4).take 4).length = 4 := by
    rw [List.length_take, List.length_drop]
    omega
  have hvalid : (ofChunk chunk offset).isValid = true ↔
      chunk.word 4 = expectedSignature ∧ (chunk.drop 8).take 12 = expectedMagic := by
    rw [isValid, Bool.and_eq_true, decide_eq_true_eq, decide_eq_true_eq]
    rfl
  rw [hvalid, hword, StandsAt, Nat.zero_add, hsplit]
  constructor
  · rintro ⟨hsignature, hmagic⟩
    exact ⟨by omega, by rw [hsignature, hmagic]⟩
  · rintro ⟨-, hbytes⟩
    exact List.append_inj hbytes hlength

/-- What is read from a chunk does not depend on what follows a first header. -/
lemma ofChunk_take (data : Bytes) (offset : Nat) :
    ofChunk (data.take alignment) offset = ofChunk data offset := by
  simp only [ofChunk, alignment]
  rw [word_take _ (by decide), word_take _ (by decide), word_take _ (by decide),
    word_take _ (by decide), List.drop_take, List.take_take, Nat.min_eq_left (by decide)]

/-- The fields of a first header are written back as the bytes that they were read from. -/
lemma toBytes_ofChunk {data : Bytes} (h : size ≤ data.length) (offset : Nat) :
    (ofChunk data offset).toBytes = data.take 28 := by
  rw [size] at h
  simp only [toBytes, ofChunk]
  rw [ofWord_word (by omega), ofWord_word (by omega), ofWord_word (by omega),
    ofWord_word (by omega), List.drop_zero, ← List.take_add, ← List.take_add, ← List.take_add,
    ← List.take_add]

/-! ## All chunks -/

/-- **One round of the search**, which reads a chunk. -/
lemma search_round (offset : Nat) (data : Bytes) :
    search offset data =
      if data.length < 28 then (none, offset + data.length)
      else if StandsAt data 0 then (some (ofChunk data offset), offset + min 512 data.length)
      else search (offset + min 512 data.length) (data.drop 512) := by
  have hchunk : (data.take alignment).length = min 512 data.length := List.length_take
  rw [search]
  by_cases hshort : data.length < 28
  · rw [if_pos hshort, dif_pos (by rw [hchunk, size]; omega), hchunk, Nat.min_eq_right (by omega)]
  · have hsize : size ≤ (data.take alignment).length := by
      rw [hchunk, size]
      omega
    have hvalid := (isValid_ofChunk_iff hsize offset).trans (standsAt_take_zero data)
    rw [if_neg hshort, dif_neg (Nat.not_lt.2 hsize), hchunk, ofChunk_take]
    rw [ofChunk_take] at hvalid
    by_cases hhere : StandsAt data 0
    · rw [if_pos hhere, if_pos (hvalid.2 hhere)]
    · rw [if_neg hhere, if_neg fun h => hhere (hvalid.1 h), alignment]

/-- **What the search of data gives**: the first header at the least aligned place where one stands,
read together with the rest of its chunk; or none, after all of the data.

**Proof sketch.** Induction along the search. A chunk that is not accepted has no first header at
its start, and the other aligned places are those of the data behind it. -/
lemma search_eq (offset : Nat) (data : Bytes) :
    (∃ k, StandsAt data (512 * k) ∧ (∀ j < k, ¬ StandsAt data (512 * j)) ∧
        search offset data =
          (some (ofChunk (data.drop (512 * k)) (offset + 512 * k)),
            offset + min (512 * (k + 1)) data.length)) ∨
      (∀ k, ¬ StandsAt data (512 * k)) ∧ search offset data = (none, offset + data.length) := by
  induction hlength : data.length using Nat.strong_induction_on generalizing offset data with
  | _ n ih =>
    subst hlength
    rw [search_round]
    by_cases hshort : data.length < 28
    · right
      refine ⟨fun k hk => ?_, if_pos hshort⟩
      have := hk.1
      omega
    rw [if_neg hshort]
    by_cases hhere : StandsAt data 0
    · left
      exact ⟨0, hhere, fun j hj => absurd hj (Nat.not_lt_zero j), if_pos hhere⟩
    rw [if_neg hhere]
    -- the place behind the chunk is the first one of the data there
    have hnext : ∀ k, StandsAt (data.drop 512) (512 * k) ↔ StandsAt data (512 * (k + 1)) := by
      intro k
      rw [standsAt_drop, Nat.mul_succ, Nat.add_comm]
    obtain ⟨k, hk, hbefore, hsearch⟩ | ⟨hnone, hsearch⟩ :=
      ih _ (by rw [List.length_drop]; omega) (offset + min 512 data.length) (data.drop 512) rfl
    · left
      have hroom := ((hnext k).1 hk).1
      refine ⟨k + 1, (hnext k).1 hk, fun j hj => ?_, ?_⟩
      · cases j with
        | zero => exact hhere
        | succ j => exact fun h => hbefore j (by omega) ((hnext j).2 h)
      · have hplace : 512 + 512 * k = 512 * (k + 1) := by omega
        have hread : offset + min 512 data.length + min (512 * (k + 1)) (data.length - 512) =
            offset + min (512 * (k + 1 + 1)) data.length := by omega
        rw [hsearch, List.drop_drop, List.length_drop, hread, Nat.min_eq_left (by omega),
          Nat.add_assoc, hplace]
    · right
      refine ⟨fun k => ?_, ?_⟩
      · cases k with
        | zero => exact hhere
        | succ k => exact fun h => hnone k ((hnext k).2 h)
      · have hread : offset + min 512 data.length + (data.length - 512) = offset + data.length := by
          omega
        rw [hsearch, List.length_drop, hread]

/-! ## Files -/

/-- The search in a file, chunk by chunk, after `offset` bytes. It ends at a chunk that is too short
for a first header, or with the first header at the start of a chunk, and otherwise goes on behind
the chunk. -/
inductive Searches : (offset : Nat) → File → Option FirstHeader → File → Prop
  | tooShort {offset : Nat} {f : File} (h : (f.read 512).1.length < 28) :
      Searches offset f none (f.read 512).2
  | found {offset : Nat} {f : File} (h : 28 ≤ (f.read 512).1.length)
      (hvalid : (ofChunk (f.read 512).1 offset).isValid = true) :
      Searches offset f (some (ofChunk (f.read 512).1 offset)) (f.read 512).2
  | next {offset : Nat} {f f' : File} {found : Option FirstHeader} (h : 28 ≤ (f.read 512).1.length)
      (hvalid : ¬ (ofChunk (f.read 512).1 offset).isValid = true)
      (hrest : Searches (offset + (f.read 512).1.length) (f.read 512).2 found f') :
        Searches offset f found f'

/-- Reading a chunk takes 512 bytes, or what is left. -/
lemma read_chunk (f : File) :
    f.read 512 = (f.rest.take 512, { f with pos := f.pos + min 512 f.rest.length }) := by
  rw [File.read, if_neg (by decide)]
  simp only [List.length_take]
  rfl

/-- What follows a chunk that was read. -/
lemma rest_read_chunk (f : File) : (f.read 512).2.rest = f.rest.drop 512 := by
  rw [read_chunk]
  simp only [File.rest, List.drop_drop, List.length_drop]
  by_cases hfull : 512 ≤ f.content.length - f.pos
  · rw [Nat.min_eq_left hfull]
  · rw [List.drop_eq_nil_of_le (by omega), List.drop_eq_nil_of_le (by omega)]

/-- The search of what follows the position of a file is the search in the file, which therefore
comes to an end. -/
lemma searches_search (offset : Nat) (f : File) :
    ∃ n, (search offset f.rest).2 = offset + n ∧
      Searches offset f (search offset f.rest).1 { f with pos := f.pos + n } := by
  generalize hdata : f.rest = data
  fun_induction search offset data generalizing f with
  | case1 offset data chunk hshort =>
    subst hdata
    refine ⟨_, rfl, ?_⟩
    have hread : Searches offset f none (f.read 512).2 :=
      .tooShort (by rw [read_chunk]; exact hshort)
    rw [read_chunk, ← List.length_take] at hread
    exact hread
  | case2 offset data chunk hshort hvalid =>
    subst hdata
    refine ⟨_, rfl, ?_⟩
    have hread : Searches offset f (some (ofChunk (f.read 512).1 offset)) (f.read 512).2 :=
      .found (by rw [read_chunk]; exact Nat.not_lt.1 hshort) (by rw [read_chunk]; exact hvalid)
    rw [read_chunk, ← List.length_take] at hread
    exact hread
  | case3 offset data chunk hshort hvalid ih =>
    subst hdata
    obtain ⟨n, hn, hrest⟩ := ih (f.read 512).2 (rest_read_chunk f)
    refine ⟨chunk.length + n, by rw [hn, Nat.add_assoc], ?_⟩
    refine .next (by rw [read_chunk]; exact Nat.not_lt.1 hshort)
      (by rw [read_chunk]; exact hvalid) ?_
    rw [read_chunk, ← List.length_take] at hrest ⊢
    rw [Nat.add_assoc] at hrest
    exact hrest

/-- What the search of a file gives, and where it leaves the file. -/
lemma find_cases (f : File) :
    (∃ k, StandsAt f.content (f.pos + 512 * k) ∧ (∀ j < k, ¬ StandsAt f.content (f.pos + 512 * j)) ∧
        find f = (some (ofChunk (f.content.drop (f.pos + 512 * k)) (512 * k)),
          { f with pos := min (f.pos + 512 * (k + 1)) f.content.length })) ∨
      (∀ k, ¬ StandsAt f.content (f.pos + 512 * k)) ∧
        find f = (none, { f with pos := max f.pos f.content.length }) := by
  have hplace : ∀ k, StandsAt f.rest (512 * k) ↔ StandsAt f.content (f.pos + 512 * k) :=
    fun k => standsAt_drop _ _ _
  have hlength : f.rest.length = f.content.length - f.pos := List.length_drop
  obtain ⟨k, hk, hbefore, hsearch⟩ | ⟨hnone, hsearch⟩ := search_eq 0 f.rest
  · left
    rw [hplace] at hk
    refine ⟨k, hk, fun j hj => mt (hplace j).2 (hbefore j hj), ?_⟩
    have hroom := hk.1
    have hpos : f.pos + min (512 * (k + 1)) f.rest.length =
        min (f.pos + 512 * (k + 1)) f.content.length := by omega
    rw [find, hsearch]
    simp only [Nat.zero_add, hpos]
    rw [File.rest, List.drop_drop]
  · right
    refine ⟨fun k => mt (hplace k).2 (hnone k), ?_⟩
    have hpos : f.pos + f.rest.length = max f.pos f.content.length := by omega
    rw [find, hsearch]
    simp only [Nat.zero_add, hpos]

/-- **The search finds the first aligned header.** It comes to an end, and gives a first header
exactly if one stands at an aligned place of the file, counted from its position. Then it is the one
at the least such place, with the fields that are stored there, and the file is left behind its
chunk. Otherwise the file is left at its end, or where it was if that is behind the end. -/
theorem find_least_aligned (f : File) :
    Searches 0 f (find f).1 (find f).2 ∧
      ((∃ h, (find f).1 = some h) ↔ ∃ k, StandsAt f.content (f.pos + 512 * k)) ∧
      (∀ k, StandsAt f.content (f.pos + 512 * k) →
        (∀ j < k, ¬ StandsAt f.content (f.pos + 512 * j)) →
        ∃ h, find f = (some h, { f with pos := min (f.pos + 512 * (k + 1)) f.content.length }) ∧
          h.toBytes = (f.content.drop (f.pos + 512 * k)).take 28 ∧ h.headerOffset = 512 * k ∧
          h.dataOffset = 512 * k + 28) ∧
      ((∀ k, ¬ StandsAt f.content (f.pos + 512 * k)) →
        find f = (none, { f with pos := max f.pos f.content.length })) := by
  refine ⟨?_, ?_, fun k hk hbefore => ?_, fun hnone => ?_⟩
  · obtain ⟨n, hn, hsearches⟩ := searches_search 0 f
    rw [Nat.zero_add] at hn
    rw [← hn] at hsearches
    exact hsearches
  · obtain ⟨k, hk, -, hfind⟩ | ⟨hnone, hfind⟩ := find_cases f
    · exact ⟨fun _ => ⟨k, hk⟩, fun _ => ⟨_, congrArg Prod.fst hfind⟩⟩
    · refine ⟨?_, ?_⟩
      · rintro ⟨h, hh⟩
        rw [hfind] at hh
        cases hh
      · rintro ⟨k, hk⟩
        exact absurd hk (hnone k)
  · obtain ⟨k', hk', hbefore', hfind⟩ | ⟨hnone, -⟩ := find_cases f
    · -- both places are the least one
      obtain rfl : k = k' := Nat.le_antisymm (Nat.not_lt.1 fun hlt => hbefore k' hlt hk')
        (Nat.not_lt.1 fun hlt => hbefore' k hlt hk)
      have hroom := hk.1
      refine ⟨_, hfind, toBytes_ofChunk ?_ _, rfl, rfl⟩
      rw [size, List.length_drop]
      omega
    · exact absurd hk (hnone k)
  · obtain ⟨k, hk, -⟩ | ⟨-, hfind⟩ := find_cases f
    · exact absurd hk (hnone k)
    · exact hfind

/-- What stands before data does not matter for the places in them. -/
lemma standsAt_append (front data : Bytes) (place : Nat) :
    StandsAt (front ++ data) (front.length + place) ↔ StandsAt data place := by
  rw [← standsAt_drop, List.drop_left]

/-- The beginning of a file with what looks like a first header at position 0. -/
def lookalike : Bytes :=
  [1, 0, 0, 0, 0xef, 0xbe, 0xad, 0xde] ++ expectedMagic ++ List.replicate 495 0

/-- A chunk with a first header that is not full. -/
def shortChunk : Bytes :=
  [2, 0, 0, 0, 0xef, 0xbe, 0xad, 0xde] ++ expectedMagic ++ [5, 0, 0, 0, 6, 0, 0, 0, 7, 7]

/-- A file with a first header in its second and last chunk, counted from position 3. -/
def twoChunks : File where
  content := lookalike ++ shortChunk
  pos := 3

/-- In a file of two chunks, the search finds the header in the second one, counted from where it
began. Begun one byte later, it finds none. -/
theorem find_twoChunks :
    (∃ h, find twoChunks = (some h, { twoChunks with pos := 545 }) ∧
      h.toBytes = [2, 0, 0, 0, 0xef, 0xbe, 0xad, 0xde] ++ expectedMagic ++
        [5, 0, 0, 0, 6, 0, 0, 0] ∧
      h.headerOffset = 512 ∧ h.dataOffset = 540) ∧
      find { twoChunks with pos := 516 } = (none, { twoChunks with pos := 545 }) := by
  have hfront : lookalike.length = 515 := by
    rw [lookalike, List.length_append, List.length_replicate]
    rfl
  have hlength : twoChunks.content.length = 545 := by
    rw [twoChunks, List.length_append, hfront]
    rfl
  have hplace : ∀ place, StandsAt twoChunks.content (515 + place) ↔ StandsAt shortChunk place := by
    intro place
    rw [← hfront]
    exact standsAt_append lookalike shortChunk place
  constructor
  · have hfirst : ¬ StandsAt twoChunks.content 3 :=
      fun h => absurd (congrArg List.head? h.2) (by decide)
    obtain ⟨h, hfind, hbytes, hheader, hdata⟩ :=
      (find_least_aligned twoChunks).2.2.1 1 ((hplace 0).2 (by decide))
      fun j hj => by
        obtain rfl : j = 0 := by omega
        exact hfirst
    rw [hlength, Nat.min_eq_right (by decide)] at hfind
    refine ⟨h, hfind, hbytes.trans ?_, hheader, hdata⟩
    rw [twoChunks, show 3 + 512 * 1 = lookalike.length by rw [hfront], List.drop_left]
    rfl
  · have hnone := (find_least_aligned { twoChunks with pos := 516 }).2.2.2 fun k hk => by
      have hroom := hk.1
      simp only [hlength] at hroom
      obtain rfl : k = 0 := by omega
      exact absurd ((hplace 1).1 hk) (by decide)
    simp only [hlength] at hnone
    exact hnone

end Nsis.FirstHeader
