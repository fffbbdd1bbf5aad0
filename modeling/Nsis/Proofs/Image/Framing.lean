import Mathlib.Data.List.Basic
import Nsis.Image.Header
import Nsis.Proofs.Image.Unpacking

/-!
# Headers that are packed on their own

Unless all data of an installer are one stream, the packed header stands in a frame: before it a
word that gives its size, with the highest bit set, and behind it the data to be installed. That bit
shows the frame, whatever the size of the header, except for one coincidence: if the packed header
has 93 bytes, the word begins as the properties of an LZMA stream do, and then it depends on two
bytes of the header whether it is taken for one.

The data to be installed are looked for as far behind the word as the packed header is long. They
begin four bytes later, since the word has a length, too.

## Main definitions

* `Nsis.Frame` — a packed header in its frame.
* `Nsis.Frame.Mimics` — the coincidence.
* `Nsis.Method.ofBytes` — the method that a packed header shows.

## Main results

* `Nsis.Frame.ofChunk_eq` — the packing that a frame shows.
* `Nsis.Frame.recognised_unless_mimics` — what is unpacked from a frame.
* `Nsis.Frame.blockFrom_data` — where the data to be installed are looked for.
-/

namespace Nsis

/-! ## Recognising methods -/

/-- The method that a packed header shows by its first bytes. -/
def Method.ofBytes (data : Bytes) : Except Fault Method := do
  if ← looksLikeLzma data then return .lzma
  methodUnlessLzma data

/-- Data that begin as an LZMA stream does. -/
def LzmaStart (data : Bytes) : Prop :=
  data.take 3 = [0x5d, 0, 0] ∧ data.getD 5 0 = 0 ∧ data.getD 6 0 &&& 0x80 = 0

/-- Whether data begin like an LZMA stream can be computed. -/
instance (data : Bytes) : Decidable (LzmaStart data) :=
  inferInstanceAs (Decidable (_ ∧ _ ∧ _))

/-- Inside data, the byte at a position is there. -/
lemma byteAt_eq {data : Bytes} {i : Nat} (h : i < data.length) :
    byteAt data i = .ok (data.getD i 0) := by
  rw [byteAt, List.getD_eq_getElem?_getD, List.getElem?_eq_getElem h]
  rfl

/-- Data that are long enough begin like an LZMA stream, or do not. -/
lemma hasLzmaStart_eq {data : Bytes} (h : 7 ≤ data.length) :
    hasLzmaStart data = .ok (decide (LzmaStart data)) := by
  simp only [hasLzmaStart, byteAt_eq (show 5 < data.length by omega),
    byteAt_eq (show 6 < data.length by omega), bind, Except.bind, pure, Except.pure, LzmaStart]
  split_ifs <;> simp_all

/-- Data that are long enough look like an LZMA stream if they begin like one, or do so behind the
byte for a filter. -/
lemma looksLikeLzma_eq {data : Bytes} (h : 8 ≤ data.length) :
    looksLikeLzma data =
      .ok (decide (LzmaStart data ∨ data.getD 0 0 ≤ 1 ∧ LzmaStart (data.drop 1))) := by
  have hdrop : 7 ≤ (data.drop 1).length := by
    rw [List.length_drop]
    omega
  simp only [looksLikeLzma, hasLzmaStart_eq (show 7 ≤ data.length by omega), hasLzmaStart_eq hdrop,
    byteAt_eq (show 0 < data.length by omega), bind, Except.bind, pure, Except.pure]
  split_ifs <;> simp_all

/-- Data that are long enough show block sorting by two bytes, and deflate otherwise. -/
lemma methodUnlessLzma_eq {data : Bytes} (h : 2 ≤ data.length) :
    methodUnlessLzma data =
      .ok (if data.getD 0 0 = 0x31 ∧ data.getD 1 0 < 0x0e then .bzip2 else .deflate) := by
  simp only [methodUnlessLzma, looksLikeBzip2, byteAt_eq (show 0 < data.length by omega),
    byteAt_eq (show 1 < data.length by omega), bind, Except.bind, pure, Except.pure]
  split_ifs <;> simp_all

/-- Eight bytes are enough to recognise a method. -/
lemma Method.exists_ofBytes {data : Bytes} (h : 8 ≤ data.length) : ∃ m, ofBytes data = .ok m := by
  simp only [ofBytes, looksLikeLzma_eq h, methodUnlessLzma_eq (show 2 ≤ data.length by omega), bind,
    Except.bind, pure, Except.pure]
  split_ifs <;> exact ⟨_, rfl⟩

/-- Behind a word whose highest byte is 128, the method is recognised by the bytes after it, unless
the word looks like the beginning of an LZMA stream. -/
lemma Packing.ofChunk_append {word data : Bytes} (hword : word.length = 4)
    (hhigh : word.getD 3 0 = 0x80) {m : Method} (hm : Method.ofBytes data = .ok m)
    (hdata : 8 ≤ data.length) :
    ofChunk (word ++ data) =
      .ok (if LzmaStart (word ++ data) then ⟨.lzma, true⟩ else ⟨m, false⟩) := by
  have hlen : 8 ≤ (word ++ data).length := by
    rw [List.length_append]
    omega
  have hthird : (word ++ data).getD 3 0 = 0x80 := by
    rw [List.getD_append _ _ _ _ (by omega), hhigh]
  -- the highest byte of the word is none that could follow a byte for a filter
  have hfilter : ¬ LzmaStart ((word ++ data).drop 1) := by
    intro hstart
    have hbyte := congrArg (·.getD 2 0) hstart.1
    simp only [List.getD_eq_getElem?_getD, List.getElem?_take_of_lt (show 2 < 3 by decide),
      List.getElem?_drop] at hbyte hthird
    rw [hthird] at hbyte
    exact absurd hbyte (by decide)
  have hdrop : (word ++ data).drop 4 = data := by
    rw [← hword, List.drop_left]
  simp only [ofChunk, looksLikeLzma_eq hlen, byteAt_eq (show 3 < (word ++ data).length by omega),
    hthird, hdrop, hfilter, and_false, or_false, bind, Except.bind, pure, Except.pure]
  simp only [Method.ofBytes, bind, Except.bind, pure, Except.pure] at hm
  by_cases hstart : LzmaStart (word ++ data)
  · simp [hstart]
  · simp only [hstart, decide_false, Bool.false_eq_true, if_false, if_true]
    cases hlzma : looksLikeLzma data with
    | error e => simp [hlzma] at hm
    | ok lzma =>
      cases lzma with
      | true => simp_all
      | false => simp_all

/-! ## Frames -/

/-- A packed header in its frame, and what stands before and behind it in a file. The size of a
packed header takes 31 bits. -/
structure Frame where
  start : Bytes
  packed : Bytes
  rest : Bytes
  length_packed : packed.length < 2 ^ 31

namespace Frame

variable (x : Frame)

/-- The word before the packed header: its size, with the highest bit set. -/
def word : UInt32 :=
  UInt32.ofNat (x.packed.length + 2 ^ 31)

/-- The word, the packed header, and what follows. -/
def framed : Bytes :=
  Bytes.ofWord x.word ++ (x.packed ++ x.rest)

/-- All bytes of the file. -/
def content : Bytes :=
  x.start ++ x.framed

/-- The word of a frame is the size of its packed data, with the highest bit set. -/
lemma toNat_word : x.word.toNat = x.packed.length + 2 ^ 31 := by
  have hlt := x.length_packed
  exact UInt32.toNat_ofNat_of_lt' (by simp only [UInt32.size]; omega)

/-- Without its highest bit, the word is the size of the packed header. -/
lemma toNat_word_and : (x.word &&& 0x7fffffff).toNat = x.packed.length := by
  have hmask : (0x7fffffff : UInt32).toNat = 2 ^ 31 - 1 := rfl
  rw [UInt32.toNat_and, hmask, Nat.and_two_pow_sub_one_eq_mod, toNat_word, Nat.add_mod_right,
    Nat.mod_eq_of_lt x.length_packed]

/-- A framed header begins with its word. -/
lemma word_framed : x.framed.word 0 = x.word :=
  Bytes.word_ofWord_append _ _

variable {x} {f : File}

/-- Behind the start of a file with a frame stands the framed header. -/
lemma dataAt_start (hf : f.content = x.content) : f.dataAt x.start.length = x.framed := by
  rw [File.dataAt, hf, Int.toNat_natCast, content, List.drop_left]

/-- Behind the word of a frame stand the packed data. -/
lemma dataAt_behind (hf : f.content = x.content) :
    f.dataAt (x.start.length + 4) = x.packed ++ x.rest := by
  have hlen := Bytes.length_ofWord x.word
  have hnat : ((x.start.length : Int) + 4).toNat =
      x.start.length + (Bytes.ofWord x.word).length := by
    omega
  rw [File.dataAt, hf, hnat, content, List.drop_length_add_append, framed, List.drop_left]

/-- The first bytes at the place of a frame. -/
lemma take_framed (h : 8 ≤ x.packed.length) :
    x.framed.take chunkSize = Bytes.ofWord x.word ++ x.packed.take 8 := by
  have hlen := Bytes.length_ofWord x.word
  rw [framed, chunkSize, show 12 = (Bytes.ofWord x.word).length + 8 by omega,
    List.take_length_add_append, List.take_append_of_le_length h]

/-- The bytes of the word, the highest one last. -/
lemma ofWord_word (h : x.packed.length < 2 ^ 24) :
    Bytes.ofWord x.word =
      [UInt8.ofNat (x.packed.length % 256), UInt8.ofNat (x.packed.length / 256 % 256),
        UInt8.ofNat (x.packed.length / 256 / 256 % 256), 0x80] := by
  have h₀ : (x.packed.length + 2 ^ 31) % 256 = x.packed.length % 256 := by omega
  have h₁ : (x.packed.length + 2 ^ 31) / 256 % 256 = x.packed.length / 256 % 256 := by omega
  have h₂ : (x.packed.length + 2 ^ 31) / 256 / 256 % 256 = x.packed.length / 256 / 256 % 256 := by
    omega
  have h₃ : (x.packed.length + 2 ^ 31) / 256 / 256 / 256 % 256 = 0x80 := by omega
  rw [Bytes.ofWord, toNat_word]
  simp only [Bytes.ofValue, h₀, h₁, h₂, h₃]
  rfl

/-- The coincidence that a frame begins as an LZMA stream does. The packed header has 93 bytes,
which is also how the usual LZMA properties are written, and its second and third byte are such as
an LZMA stream may have at its start. -/
def Mimics (x : Frame) : Prop :=
  x.packed.length = 0x5d ∧ x.packed.getD 1 0 = 0 ∧ x.packed.getD 2 0 &&& 0x80 = 0

/-- Whether a frame begins as an LZMA stream does can be computed. -/
instance (x : Frame) : Decidable x.Mimics :=
  inferInstanceAs (Decidable (_ ∧ _ ∧ _))

/-- A frame begins like an LZMA stream exactly by this coincidence. -/
lemma lzmaStart_iff_mimics (hlow : 8 ≤ x.packed.length) (hhigh : x.packed.length < 2 ^ 24) :
    LzmaStart (Bytes.ofWord x.word ++ x.packed.take 8) ↔ x.Mimics := by
  have hsize : (Bytes.ofWord x.word ++ x.packed.take 8).take 3 = [0x5d, 0, 0] ↔
      x.packed.length = 0x5d := by
    rw [ofWord_word hhigh]
    simp only [List.cons_append, List.take_succ_cons, List.take_zero, List.cons.injEq, and_true,
      ← UInt8.toNat_inj, UInt8.toNat_ofNat', UInt8.toNat_ofNat]
    omega
  have hbyte : ∀ i, i < 8 →
      (Bytes.ofWord x.word ++ x.packed.take 8).getD (4 + i) 0 = x.packed.getD i 0 := by
    intro i hi
    have hlen := Bytes.length_ofWord x.word
    rw [List.getD_append_right _ _ _ _ (by omega), hlen, Nat.add_sub_cancel_left,
      List.getD_eq_getElem?_getD, List.getElem?_take_of_lt hi, List.getD_eq_getElem?_getD]
  rw [LzmaStart, hsize, hbyte 1 (by decide), hbyte 2 (by decide), Mimics]

/-- **The packing that a frame shows**: it is recognised as a frame, and the method is that of the
packed header, unless it mimics an LZMA stream. -/
theorem ofChunk_eq (hlow : 8 ≤ x.packed.length) (hhigh : x.packed.length < 2 ^ 24) {m : Method}
    (hm : Method.ofBytes (x.packed.take 8) = .ok m) :
    Packing.ofChunk (x.framed.take chunkSize) =
      .ok (if x.Mimics then ⟨.lzma, true⟩ else ⟨m, false⟩) := by
  have hword : (Bytes.ofWord x.word).getD 3 0 = 0x80 := by
    rw [ofWord_word hhigh]
    rfl
  have hdata : 8 ≤ (x.packed.take 8).length := by
    rw [List.length_take]
    omega
  rw [take_framed hlow, Packing.ofChunk_append (Bytes.length_ofWord _) hword hm hdata]
  simp only [lzmaStart_iff_mimics hlow hhigh]

/-- The packing that is decided on for a frame. -/
lemma decided_eq {offset : Int} (hdata : f.dataAt offset = x.framed) (hlow : 8 ≤ x.packed.length)
    (hhigh : x.packed.length < 2 ^ 24) {m : Method}
    (hm : Method.ofBytes (x.packed.take 8) = .ok m) :
    Packing.decided f offset = (do
      let _ ← f.seek offset
      return if x.Mimics then ⟨.lzma, true⟩ else ⟨m, false⟩) := by
  have hword : leadingWord (x.framed.take chunkSize) =
      .ok (Bytes.word (x.framed.take chunkSize) 0) := by
    rw [leadingWord, if_neg]
    simp only [take_framed hlow, List.length_append, Bytes.length_ofWord]
    omega
  simp only [Packing.decided, bind, Except.bind]
  cases hseek : f.seek offset with
  | error e => rfl
  | ok f' =>
    simp only [File.read_of_seek hseek, hdata, hword, ofChunk_eq hlow hhigh hm]
    rfl

/-- **Frames are recognised, with one exception.** Whatever the size of a packed header is, it is
decided that it is packed on its own, with the method that the packed header shows by itself; and
the method is given the packed header, or in the case of LZMA all that follows the word. Only if the
frame mimics an LZMA stream it is taken for one, which begins at the word. -/
theorem recognised_unless_mimics (hf : f.content = x.content) (hlow : 8 ≤ x.packed.length)
    (hhigh : x.packed.length < 2 ^ 24) :
    ∃ m, Method.ofBytes (x.packed.take 8) = .ok m ∧
      Packing.decided f x.start.length = (do
        let _ ← f.seek x.start.length
        return if x.Mimics then ⟨.lzma, true⟩ else ⟨m, false⟩) ∧
      Unpacked.ofFile f x.start.length =
        if x.Mimics then do
          let _ ← f.seek x.start.length
          Unpacked.ofStream .lzma x.framed
        else do
          let _ ← f.seek (x.start.length + 4)
          let data ← m.decode (if m = .lzma then x.packed ++ x.rest else x.packed)
          return ⟨data, x.packed.length, ⟨m, false⟩⟩ := by
  obtain ⟨m, hm⟩ : ∃ m, Method.ofBytes (x.packed.take 8) = .ok m := by
    apply Method.exists_ofBytes
    rw [List.length_take]
    omega
  have hdecided := decided_eq (dataAt_start hf) hlow hhigh hm
  refine ⟨m, hm, hdecided, ?_⟩
  have hnat : (x.start.length : Int) + 4 = ((x.start.length + 4 : Nat) : Int) := by push_cast; rfl
  by_cases hfits : x.start.length < 2 ^ 63
  · have hseek := File.seek_natCast f x.start.length
    rw [if_pos hfits] at hseek
    rw [hseek] at hdecided ⊢
    by_cases hmimics : x.Mimics
    · rw [if_pos hmimics] at hdecided ⊢
      rw [Unpacked.ofFile_of_solid hdecided, dataAt_start hf]
      rfl
    · rw [if_neg hmimics] at hdecided ⊢
      rw [Unpacked.ofFile_of_framed hdecided, dataAt_start hf, dataAt_behind hf, word_framed,
        toNat_word_and]
      simp only [Method.share, List.take_left]
  · -- no file reaches so far
    have hseek : f.seek x.start.length = .error .hugePosition := by
      rw [File.seek_natCast, if_neg hfits]
    have hbehind : f.seek (x.start.length + 4) = .error .hugePosition := by
      rw [hnat, File.seek_natCast, if_neg (by omega)]
    rw [Unpacked.ofFile_eq, hdecided, hseek, hbehind]
    split_ifs <;> rfl

/-- A frame at the start of a file: a stored block without data, and one with `n` equal bytes. -/
def twoBlocks (n : Nat) (h : n < 256) : Frame where
  start := []
  packed :=
    [0, 0, 0, 0xff, 0xff, 1] ++ Bytes.ofValue 2 n ++ Bytes.ofValue 2 (0xffff - n) ++
      List.replicate n 7
  rest := []
  length_packed := by
    simp only [List.length_append, Bytes.length_ofValue, List.length_replicate, List.length_cons,
      List.length_nil]
    omega

/-- With 84 bytes of data the packed header has 94 bytes, and it is unpacked. -/
theorem recognised_of_94_bytes :
    8 ≤ (twoBlocks 84 (by decide)).packed.length ∧
      (twoBlocks 84 (by decide)).packed.length < 2 ^ 24 ∧
      Unpacked.ofFile ⟨(twoBlocks 84 (by decide)).content, 0⟩ 0 =
        .ok ⟨List.replicate 84 7, 94, ⟨.deflate, false⟩⟩ := by
  have hlow : 8 ≤ (twoBlocks 84 (by decide)).packed.length := by decide
  have hhigh : (twoBlocks 84 (by decide)).packed.length < 2 ^ 24 := by decide
  have hmethod : Method.ofBytes ((twoBlocks 84 (by decide)).packed.take 8) = .ok .deflate := by
    decide +kernel
  have hdecode : Method.deflate.decode (twoBlocks 84 (by decide)).packed =
      .ok (List.replicate 84 7) := by
    decide +kernel
  obtain ⟨m, hm, -, h⟩ :=
    recognised_unless_mimics (f := ⟨(twoBlocks 84 (by decide)).content, 0⟩) rfl hlow hhigh
  obtain rfl := Except.ok.inj (hmethod.symm.trans hm)
  refine ⟨hlow, hhigh, h.trans ?_⟩
  have hlen : (twoBlocks 84 (by decide)).packed.length = 94 := by decide
  have hseek : (File.mk (twoBlocks 84 (by decide)).content 0).seek
      ((twoBlocks 84 (by decide)).start.length + 4) = .ok ⟨(twoBlocks 84 (by decide)).content, 4⟩ :=
    (File.seek_natCast _ 4).trans (if_pos (by decide))
  rw [if_neg (by decide), if_neg (by decide), hdecode, hlen, hseek]
  rfl

/-- With 83 bytes of data the packed header has 93 bytes. By itself it is recognised and can be
unpacked, but in its frame it is taken for an LZMA stream. -/
theorem not_recognised_of_93_bytes :
    (twoBlocks 83 (by decide)).packed.length = 93 ∧
      Method.ofBytes ((twoBlocks 83 (by decide)).packed.take 8) = .ok .deflate ∧
      Deflate.inflate (twoBlocks 83 (by decide)).packed = .ok (List.replicate 83 7) ∧
      Packing.decided ⟨(twoBlocks 83 (by decide)).content, 0⟩ 0 = .ok ⟨.lzma, true⟩ :=
  ⟨by decide, by decide +kernel, by decide +kernel, by decide +kernel⟩

/-! ## The data to be installed -/

/-- The size of a header that is packed on its own is the one that the word gives. -/
lemma size_of_ofFile {offset : Int} {u : Unpacked} (hdata : f.dataAt offset = x.framed)
    (h : Unpacked.ofFile f offset = .ok u) (hsolid : u.packing.solid = false) :
    u.size = x.packed.length := by
  rw [Unpacked.ofFile_eq, Fault.bind_eq_ok] at h
  obtain ⟨⟨m, solid⟩, -, h⟩ := h
  cases solid with
  | true =>
    -- a header from a solid stream is marked as solid
    simp only [if_true, Unpacked.ofStream, Fault.bind_eq_ok] at h
    obtain ⟨data, -, size, -, h⟩ := h
    cases h
    cases hsolid
  | false =>
    simp only [Bool.false_eq_true, if_false, Fault.bind_eq_ok] at h
    obtain ⟨f', -, data, -, h⟩ := h
    cases h
    show ((f.dataAt offset).word 0 &&& 0x7fffffff).toNat = x.packed.length
    rw [hdata, word_framed, toNat_word_and]

/-- **The data to be installed are looked for four bytes too early.** What is returned for them
begins with the last four bytes of the frame, and is followed by all that stands behind the
frame. -/
theorem blockFrom_data (hf : f.content = x.content) {first : FirstHeader}
    (hfirst : first.dataOffset = x.start.length) {i : Image} (hi : Image.extract f first = .ok i)
    (hsolid : i.packing.solid = false) :
    ∃ last, last <:+ Bytes.ofWord x.word ++ x.packed ∧ last.length = 4 ∧
      i.blockFrom f BlockId.data = (do
        let _ ← f.seek (x.start.length + x.packed.length : Nat)
        return last ++ x.rest) := by
  simp only [Image.extract, Fault.bind_eq_ok] at hi
  obtain ⟨u, hu, header, -, hi⟩ := hi
  cases hi
  have hsize : u.size = x.packed.length :=
    size_of_ofFile (by rw [hfirst, dataAt_start hf]) hu hsolid
  refine ⟨(Bytes.ofWord x.word ++ x.packed).drop x.packed.length, List.drop_suffix _ _, ?_, ?_⟩
  · rw [List.length_drop, List.length_append, Bytes.length_ofWord, Nat.add_sub_cancel]
  · simp only [Image.blockFrom, if_true, hfirst, hsize]
    generalize hn : ((x.start.length + x.packed.length : Nat) : Int) = n
    cases hseek : f.seek n with
    | error e => rfl
    | ok f' =>
      have hrest : f'.rest = (Bytes.ofWord x.word ++ x.packed).drop x.packed.length ++ x.rest := by
        rw [File.rest_of_seek hseek, File.dataAt, ← hn, Int.toNat_natCast, hf, content,
          List.drop_length_add_append, framed, ← List.append_assoc, List.drop_append_of_le_length]
        rw [List.length_append]
        omega
      simp only [bind, Except.bind, hrest]

/-- An installer whose header is stored without packing. -/
def installer (raw rest : Bytes) (h : raw.length < 2 ^ 16) : Frame where
  start :=
    [0, 0, 0, 0] ++ Bytes.ofWord FirstHeader.expectedSignature ++ FirstHeader.expectedMagic ++
    List.replicate 8 0
  packed := [1] ++ Bytes.ofValue 2 raw.length ++ Bytes.ofValue 2 (0xffff - raw.length) ++ raw
  rest := rest
  length_packed := by
    simp only [List.length_append, Bytes.length_ofValue, List.length_cons, List.length_nil]
    omega

/-- An installer with an empty header and one piece of data of four bytes, which has a frame of its
own. -/
def onePiece : Frame :=
  installer (List.replicate Header.size 0) [4, 0, 0, 0x80, 1, 2, 3, 4]
    (by rw [List.length_replicate]; decide)

/-- The header of this installer is read, and is as long as it is stored. -/
lemma extract_onePiece :
    ∃ i, Image.extract ⟨onePiece.content, 0⟩ (FirstHeader.ofChunk onePiece.content 0) = .ok i ∧
      i.packing.solid = false ∧ i.first.dataOffset = 28 ∧ i.rawSize = 305 := by
  have hextract :
      (Image.extract ⟨onePiece.content, 0⟩ (FirstHeader.ofChunk onePiece.content 0)).toOption.map
        (fun i => (i.packing.solid, i.first.dataOffset, i.rawSize)) = some (false, 28, 305) := by
        decide +kernel
  obtain ⟨i, hi, hseen⟩ := Fault.exists_of_toOption_map hextract
  simp only [Prod.mk.injEq] at hseen
  exact ⟨i, hi, hseen⟩

/-- What is returned for the data of this installer: the last four bytes of its header come
first. -/
theorem blockFrom_data_of_onePiece :
    ∃ i, Image.extract ⟨onePiece.content, 0⟩ (FirstHeader.ofChunk onePiece.content 0) = .ok i ∧
      i.packing.solid = false ∧
      i.blockFrom ⟨onePiece.content, 0⟩ BlockId.data =
        .ok [0, 0, 0, 0, 4, 0, 0, 0x80, 1, 2, 3, 4] := by
  obtain ⟨i, hi, hsolid, -, -⟩ := extract_onePiece
  obtain ⟨last, hlast, hlength, hblock⟩ := blockFrom_data (x := onePiece) rfl rfl hi hsolid
  obtain rfl : last = [0, 0, 0, 0] := by
    rw [List.suffix_iff_eq_drop.1 hlast, hlength]
    decide +kernel
  have hfits : onePiece.start.length + onePiece.packed.length < 2 ^ 63 := by decide +kernel
  refine ⟨i, hi, hsolid, hblock.trans ?_⟩
  rw [File.seek_natCast, if_pos hfits]
  rfl

/-- They are not the data alone. -/
theorem blockFrom_data_ne_rest_of_onePiece :
    ∃ i, Image.extract ⟨onePiece.content, 0⟩ (FirstHeader.ofChunk onePiece.content 0) = .ok i ∧
      i.packing.solid = false ∧
        i.blockFrom ⟨onePiece.content, 0⟩ BlockId.data ≠ .ok onePiece.rest := by
  obtain ⟨i, hi, hsolid, hoffset, hsize⟩ := extract_onePiece
  refine ⟨i, hi, hsolid, ?_⟩
  simp only [Image.blockFrom, if_true, hoffset, hsize]
  rw [File.seek_natCast, if_pos (by decide)]
  intro hrest
  have hlength := congrArg List.length (Except.ok.inj hrest)
  exact absurd hlength (by decide +kernel)

end Frame

end Nsis
