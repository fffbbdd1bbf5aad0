import Nsis.Proofs.Installer.Division
import Nsis.Proofs.Symbol.Codings
import Nsis.Script.Load
import Nsis.Script.Program

/-!
# The program that loading leaves

An installer is loaded by telling the database about its blocks, one after the other, and then about
places in them. Blocks may overlap, and a later one is written over an earlier one. All of them are
cut out of the same header and written where they were cut out, so that memory agrees with every
block, in whichever order they are written.

How the database keeps segments, for instance those that overlap, is left to it. What is asked of it
is said by hypotheses about the program that the disassembler works with.

## Main definitions

* `Nsis.Script.LoadEvent.NamesPlaces` — the events behind those of blocks.
* `Nsis.Script.memoryOf` — the memory that writes leave behind.
* `Nsis.Script.Recorded` — programs with the version that was told and the memory that was written.
* `Nsis.Script.Program.FindsStart`, `Nsis.Script.Program.FindsBounds` — segments that are found
  where they were told to be.
* `Nsis.Script.LoadedFrom` — programs that agree with an installer.
* `Nsis.Script.Program.answerAt` — the text of a string, as a session would answer with it.

## Main results

* `Nsis.Script.Recorded.loadedFrom` — what was recorded agrees with the installer.
* `Nsis.Script.exists_recorded` — a database can keep all that it is told.
* `Nsis.Script.LoadedFrom.decodeAt_eq` — strings are decoded out of memory as they are out of their
  block.
* `Nsis.Session.ask_text_eq_answerAt_iff` — when a session and a program give the same text for a
  string.
-/

namespace Nsis

namespace Script

/-! ## Pieces that agree -/

/-- The byte of a piece at an address that is no less than zero. -/
lemma Piece.byte?_natCast (start : Nat) (content : Bytes) (address : Nat) :
    (⟨start, content.toArray⟩ : Piece).byte? address =
      if address < start then none else content[address - start]? := by
  simp only [byte?]
  split_ifs
  · rfl
  · omega
  · omega
  · rw [List.getElem?_toArray]
    congr 1
    omega

/-- A slice of a header that is written where it begins there agrees with the header. -/
lemma Piece.getElem?_of_byte? {raw : Bytes} {start stop address : Nat} {b : UInt8}
    (h : (⟨start, (Signed.slice raw start stop).toArray⟩ : Piece).byte? address = some b) :
    raw[address]? = some b := by
  rw [byte?_natCast, Signed.slice_natCast] at h
  split_ifs at h with hlt
  rw [List.getElem?_take] at h
  split_ifs at h
  rw [List.getElem?_drop] at h
  rwa [show address = start + (address - start) by omega]

/-- If all pieces with a byte at an address have the same one, and there is such a piece, it does
not matter which of them was written last. -/
lemma Memory.byteOf_eq {address : Int} {pieces : List Piece} {b : UInt8}
    (hagree : ∀ piece ∈ pieces, ∀ b', piece.byte? address = some b' → b' = b)
    (hsome : ∃ piece ∈ pieces, piece.byte? address = some b) : byteOf address pieces = b := by
  induction pieces with
  | nil =>
    obtain ⟨piece, hpiece, -⟩ := hsome
    cases hpiece
  | cons piece pieces ih =>
    rw [byteOf]
    cases hbyte : piece.byte? address with
    | some b' => exact hagree piece List.mem_cons_self b' hbyte
    | none =>
      refine ih (fun piece' hpiece' => hagree piece' (List.mem_cons_of_mem _ hpiece')) ?_
      obtain ⟨piece', hpiece', hb⟩ := hsome
      rcases List.mem_cons.1 hpiece' with rfl | hpiece'
      · rw [hbyte] at hb
        cases hb
      · exact ⟨piece', hpiece', hb⟩

/-! ## What the database keeps -/

/-- The memory after an event. -/
def Memory.afterEvent (m : Memory) : LoadEvent → Memory
  | .write address content => m.write address content
  | _ => m

/-- The memory that the writes among events leave behind, one after the other. -/
def memoryOf (events : List LoadEvent) : Memory :=
  events.foldl Memory.afterEvent {}

/-- An event adds the piece that it writes to memory. -/
lemma Memory.mem_pieces_afterEvent (m : Memory) (e : LoadEvent) (piece : Piece) :
    piece ∈ (m.afterEvent e).pieces ↔ piece ∈ m.pieces ∨
      ∃ (address : Nat) (content : Bytes), e = .write address content ∧
        piece = ⟨address, content.toArray⟩ := by
  cases e with
  | write address content =>
    simp only [afterEvent, write, List.mem_cons, LoadEvent.write.injEq]
    rw [or_comm]
    refine or_congr_right ⟨?_, ?_⟩
    · rintro rfl
      exact ⟨address, content, ⟨rfl, rfl⟩, rfl⟩
    · rintro ⟨_, _, ⟨rfl, rfl⟩, rfl⟩
      rfl
  | setting key value => simp [afterEvent]
  | addSegment name kind start stop => simp [afterEvent]
  | makeName address name => simp [afterEvent]
  | entryPoint address name => simp [afterEvent]
  | chooseProcessor => simp [afterEvent]

/-- The pieces of memory are those that were there and those that were written. -/
lemma Memory.mem_pieces_foldl (events : List LoadEvent) (m : Memory) (piece : Piece) :
    piece ∈ (events.foldl afterEvent m).pieces ↔ piece ∈ m.pieces ∨
      ∃ (address : Nat) (content : Bytes), .write address content ∈ events ∧
        piece = ⟨address, content.toArray⟩ := by
  induction events generalizing m with
  | nil => simp
  | cons e events ih =>
    rw [List.foldl_cons, ih, mem_pieces_afterEvent, or_assoc]
    refine or_congr_right ⟨?_, ?_⟩
    · rintro (⟨address, content, rfl, rfl⟩ | ⟨address, content, hmem, rfl⟩)
      · exact ⟨address, content, List.mem_cons_self, rfl⟩
      · exact ⟨address, content, List.mem_cons_of_mem e hmem, rfl⟩
    · rintro ⟨address, content, hmem, rfl⟩
      rcases List.mem_cons.1 hmem with rfl | hmem
      · exact .inl ⟨address, content, rfl, rfl⟩
      · exact .inr ⟨address, content, hmem, rfl⟩

/-- The pieces of memory are those that were written. -/
lemma mem_pieces_memoryOf {events : List LoadEvent} {piece : Piece} :
    piece ∈ (memoryOf events).pieces ↔
      ∃ (address : Nat) (content : Bytes), .write address content ∈ events ∧
        piece = ⟨address, content.toArray⟩ := by
  rw [memoryOf, Memory.mem_pieces_foldl]
  exact or_iff_right List.not_mem_nil

/-- A program has recorded events: its version is the one that was told, and its memory is what the
writes left behind. Nothing is said about its segments, which the database keeps in its own way. -/
structure Recorded (events : List LoadEvent) (p : Program) : Prop where
  version : ∀ value, .setting "VERSION_MAJOR" value ∈ events → p.version = .text value
  memory : p.memory = memoryOf events

namespace Program

/-- A segment is found by its name, and begins where it was told to. Its end may be another one, for
instance because a segment that was added later lies over it. -/
def FindsStart (p : Program) (events : List LoadEvent) (name : String) : Prop :=
  ∀ (kind : String) (start stop : Nat), .addSegment name kind start stop ∈ events →
    ∃ s, p.segments.lookup name = some s ∧ s.start = start

/-- A segment is found by its name, and has the bounds that were told. -/
def FindsBounds (p : Program) (events : List LoadEvent) (name : String) : Prop :=
  ∀ (kind : String) (start stop : Nat), .addSegment name kind start stop ∈ events →
    p.segments.lookup name = some ⟨start, stop⟩

/-- A segment with the bounds that were told begins where it was told to. -/
lemma FindsBounds.findsStart {p : Program} {events : List LoadEvent} {name : String}
    (h : p.FindsBounds events name) : p.FindsStart events name :=
  fun kind start stop hmem => ⟨⟨start, stop⟩, h kind start stop hmem, rfl⟩

end Program

/-! ## The events of loading -/

/-- The events behind those of blocks: the segment of variables, and names of places. -/
def LoadEvent.NamesPlaces : LoadEvent → Prop
  | .setting _ _ => False
  | .addSegment name _ _ _ => name = "VARS"
  | .write _ _ => False
  | .makeName _ _ => True
  | .entryPoint _ _ => True
  | .chooseProcessor => True

/-- The name of a block tells the block. -/
lemma eq_of_mem_blockSegments {row row' : String × Nat × String} (h : row ∈ blockSegments)
    (h' : row' ∈ blockSegments) (hname : row.1 = row'.1) : row = row' :=
  (show ∀ row ∈ blockSegments, ∀ row' ∈ blockSegments, row.1 = row'.1 → row = row' by decide)
    row h row' h' hname

section Events

variable {i : Installer} {e : LoadEvent}

/-- Loading the variables only names places. -/
lemma namesPlaces_of_mem_loadVars (h : e ∈ (loadVars i).events) : e.NamesPlaces := by
  simp only [loadVars, Trace.mem_events_bind, Trace.mem_events_emit] at h
  rcases h with rfl | ⟨-, -, h⟩
  · rfl
  · obtain ⟨a, -, h⟩ := Trace.exists_of_mem_events_each h
    obtain rfl := Trace.mem_events_emit.1 h
    trivial

/-- Making an entry point only names places. -/
lemma namesPlaces_of_mem_loadEntryPoint {code : Int} {name : String}
    (h : e ∈ (loadEntryPoint i code name).events) : e.NamesPlaces := by
  unfold loadEntryPoint at h
  split_ifs at h
  · obtain rfl := Trace.mem_events_emit.1 h
    trivial
  · simp at h

/-- Loading a section only names places. -/
lemma namesPlaces_of_mem_loadSection {n : Nat} {s : Section} (h : e ∈ (loadSection i n s).events) :
    e.NamesPlaces := by
  unfold loadSection at h
  split_ifs at h
  · simp at h
  · rw [Trace.mem_events_bind] at h
    rcases h with h | ⟨text, -, h⟩
    · simp at h
    · exact namesPlaces_of_mem_loadEntryPoint h

/-- Loading a page only names places. -/
lemma namesPlaces_of_mem_loadPage {n : Nat} {p : Page} (h : e ∈ (loadPage i n p).events) :
    e.NamesPlaces := by
  obtain ⟨a, -, h⟩ := Trace.exists_of_mem_events_each h
  exact namesPlaces_of_mem_loadEntryPoint h

/-- Loading a block succeeds if there is one. -/
lemma result_loadBlock {name kind : String} {n : Nat} {content : Bytes}
    (h : i.image.block n = .ok content) : (loadBlock i name n kind).result = .ok () := by
  simp only [loadBlock, h]
  split_ifs <;> rfl

/-- A block that is present becomes a segment, and is written at its offset. -/
lemma mem_events_loadBlock {name kind : String} {n : Nat} {content : Bytes}
    (h : i.image.block n = .ok content) :
    e ∈ (loadBlock i name n kind).events ↔ i.image.blockOffset n ≠ 0 ∧
      (e = .addSegment name kind (i.image.blockOffset n) (i.image.blockOffset n + content.length) ∨
        e = .write (i.image.blockOffset n) content) := by
  simp only [loadBlock, h]
  split_ifs with hoffset
  · simp [hoffset]
  · simp [Trace.ofExcept, Trace.mem_events_bind, hoffset]

/-- The blocks of an installer with the usual number of blocks are there. -/
lemma exists_block_of_mem_blockSegments (hcount : i.image.header.blocks.length = Header.blockCount)
    {name kind : String} {n : Nat} (h : (name, n, kind) ∈ blockSegments) :
    ∃ stop : Nat,
      i.image.block n = .ok (Signed.slice i.image.raw (i.image.blockOffset n) stop) := by
  refine Image.exists_block ?_
  rw [hcount]
  exact (show ∀ row ∈ blockSegments, row.2.1 < Header.blockCount by decide) _ h

/-- The blocks of a whole header are loaded without a fault. -/
lemma result_loadBlocks (hcount : i.image.header.blocks.length = Header.blockCount) :
    (loadBlocks i).result = .ok () := by
  refine Trace.result_each fun row hrow => ?_
  obtain ⟨stop, hblock⟩ := exists_block_of_mem_blockSegments hcount hrow
  exact result_loadBlock hblock

/-- **The events of loading**: the version, what is told about each block, and then names of
places. -/
lemma events_load (hcount : i.image.header.blocks.length = Header.blockCount) :
    ∃ places : List LoadEvent, (∀ e ∈ places, e.NamesPlaces) ∧
      ∀ e, e ∈ (load i).events ↔
        e = .setting "VERSION_MAJOR" i.codes.version ∨
          e = .setting "VERSION_MINOR" Installer.minorVersion ∨
          (∃ name n kind, (name, n, kind) ∈ blockSegments ∧ e ∈ (loadBlock i name n kind).events) ∨
            e ∈ places := by
  have hblocks := result_loadBlocks hcount
  refine ⟨?_, ?_, fun e => ?_⟩
  rotate_left 2
  · rw [load, Trace.mem_events_bind_ok _ (Trace.result_emit _),
      Trace.mem_events_bind_ok _ (Trace.result_emit _), Trace.mem_events_bind_ok _ hblocks,
      Trace.mem_events_emit, Trace.mem_events_emit, loadBlocks,
      Trace.mem_events_each hblocks]
    simp only [Prod.exists]
    exact Iff.rfl
  · intro e h
    simp only [Trace.mem_events_bind, Trace.mem_events_emit] at h
    rcases h with h | ⟨-, -, h | ⟨-, -, h | ⟨-, -, h | ⟨-, -, rfl⟩⟩⟩⟩
    · exact namesPlaces_of_mem_loadVars h
    · obtain ⟨row, -, h⟩ := Trace.exists_of_mem_events_each h
      exact namesPlaces_of_mem_loadSection h
    · obtain ⟨row, -, h⟩ := Trace.exists_of_mem_events_each h
      exact namesPlaces_of_mem_loadPage h
    · obtain ⟨row, -, h⟩ := Trace.exists_of_mem_events_each h
      exact namesPlaces_of_mem_loadEntryPoint h
    · trivial

/-- A block that is present is told about while an installer is loaded. -/
lemma addSegment_and_write_mem_load (hcount : i.image.header.blocks.length = Header.blockCount)
    {name kind : String} {n : Nat} {content : Bytes} (hrow : (name, n, kind) ∈ blockSegments)
    (hoffset : i.image.blockOffset n ≠ 0) (hblock : i.image.block n = .ok content) :
    .addSegment name kind (i.image.blockOffset n)
      (i.image.blockOffset n + content.length) ∈ (load i).events ∧
      .write (i.image.blockOffset n) content ∈ (load i).events := by
  obtain ⟨places, -, hload⟩ := events_load hcount
  have hmem : ∀ e ∈ (loadBlock i name n kind).events, e ∈ (load i).events :=
    fun e he => (hload e).2 (.inr (.inr (.inl ⟨name, n, kind, hrow, he⟩)))
  exact ⟨hmem _ ((mem_events_loadBlock hblock).2 ⟨hoffset, .inl rfl⟩),
    hmem _ ((mem_events_loadBlock hblock).2 ⟨hoffset, .inr rfl⟩)⟩

/-- The version that is told is the one that the strings suggest. -/
lemma version_mem_load_iff (hcount : i.image.header.blocks.length = Header.blockCount)
    {value : String} :
    .setting "VERSION_MAJOR" value ∈ (load i).events ↔ value = i.codes.version := by
  obtain ⟨places, hplaces, hload⟩ := events_load hcount
  refine ⟨fun h => ?_, fun h => (hload _).2 (.inl (by rw [h]))⟩
  rcases (hload _).1 h with h | h | ⟨name, n, kind, hrow, h⟩ | h
  · exact (LoadEvent.setting.inj h).2
  · exact absurd (LoadEvent.setting.inj h).1 (by decide)
  · obtain ⟨stop, hblock⟩ := exists_block_of_mem_blockSegments hcount hrow
    simp [mem_events_loadBlock hblock] at h
  · exact absurd (hplaces _ h) id

/-- A segment with the name of a block is the segment of that block. -/
lemma eq_of_addSegment_mem_load (hcount : i.image.header.blocks.length = Header.blockCount)
    {name kind kind' : String} {n start stop : Nat} {content : Bytes}
    (hrow : (name, n, kind) ∈ blockSegments) (hblock : i.image.block n = .ok content)
    (h : .addSegment name kind' start stop ∈ (load i).events) :
    start = i.image.blockOffset n ∧ stop = i.image.blockOffset n + content.length := by
  obtain ⟨places, hplaces, hload⟩ := events_load hcount
  rcases (hload _).1 h with h | h | ⟨name', n', kind', hrow', h⟩ | h
  · cases h
  · cases h
  · obtain ⟨stop', hblock'⟩ := exists_block_of_mem_blockSegments hcount hrow'
    rcases (mem_events_loadBlock hblock').1 h with ⟨-, h | h⟩
    · obtain ⟨rfl, rfl, rfl, rfl⟩ := LoadEvent.addSegment.inj h
      obtain ⟨-, rfl, -⟩ := Prod.mk.inj (eq_of_mem_blockSegments hrow hrow' rfl)
      rw [hblock', Except.ok.injEq] at hblock
      exact ⟨rfl, by rw [hblock]⟩
    · cases h
  · -- the name is that of the segment of variables
    have hvars : name = "VARS" := hplaces _ h
    rw [hvars] at hrow
    exact absurd hrow ((show ∀ row ∈ blockSegments, row.1 ≠ "VARS" by decide) _ · rfl)

/-- What is written is a slice of the header, at the place where it begins there. -/
lemma exists_slice_of_write_mem_load (hcount : i.image.header.blocks.length = Header.blockCount)
    {address : Nat} {content : Bytes} (h : .write address content ∈ (load i).events) :
    ∃ stop : Nat, content = Signed.slice i.image.raw address stop := by
  obtain ⟨places, hplaces, hload⟩ := events_load hcount
  rcases (hload _).1 h with h | h | ⟨name, n, kind, hrow, h⟩ | h
  · cases h
  · cases h
  · obtain ⟨stop, hblock⟩ := exists_block_of_mem_blockSegments hcount hrow
    rcases (mem_events_loadBlock hblock).1 h with ⟨-, h | h⟩
    · cases h
    · obtain ⟨rfl, rfl⟩ := LoadEvent.write.inj h
      exact ⟨stop, rfl⟩
  · exact absurd (hplaces _ h) id

end Events

/-! ## Programs that agree with an installer -/

/-- A program agrees with an installer: it has its version, and memory has the bytes of each block
that is present. -/
structure LoadedFrom (i : Installer) (p : Program) : Prop where
  version : p.version = .text i.codes.version
  byte : ∀ {name n kind content k b}, (name, n, kind) ∈ blockSegments →
    i.image.blockOffset n ≠ 0 → i.image.block n = .ok content → content[k]? = some b →
    p.memory.byte (i.image.blockOffset n + k : Nat) = b

/-- **What was recorded agrees with the installer.**

**Proof sketch.** The pieces of memory are those of the events. Every piece is a slice of the header
that was written where it begins there, so all of them agree with the header, and it does not matter
which of them was written last. -/
theorem Recorded.loadedFrom {i : Installer} {p : Program}
    (hcount : i.image.header.blocks.length = Header.blockCount)
    (h : Recorded (load i).events p) : LoadedFrom i p where
  version := h.version _ ((version_mem_load_iff hcount).2 rfl)
  byte {name n kind content k b} hrow hoffset hblock hb := by
    have hmem := (addSegment_and_write_mem_load hcount hrow hoffset hblock).2
    have hbyte : (⟨i.image.blockOffset n, content.toArray⟩ : Piece).byte?
        (i.image.blockOffset n + k : Nat) = some b := by
      rw [Piece.byte?_natCast, if_neg (by omega), Nat.add_sub_cancel_left, hb]
    have hraw : i.image.raw[i.image.blockOffset n + k]? = some b := by
      obtain ⟨stop, rfl⟩ := exists_slice_of_write_mem_load hcount hmem
      exact Piece.getElem?_of_byte? hbyte
    rw [h.memory]
    refine Memory.byteOf_eq (fun piece hpiece b' hb' => ?_)
      ⟨_, mem_pieces_memoryOf.2 ⟨_, _, hmem, rfl⟩, hbyte⟩
    obtain ⟨address, content', hwrite, rfl⟩ := mem_pieces_memoryOf.1 hpiece
    obtain ⟨stop, rfl⟩ := exists_slice_of_write_mem_load hcount hwrite
    rw [Piece.getElem?_of_byte? hb', Option.some.injEq] at hraw
    exact hraw

/-- The bounds of the segment of a block that is present, where the database keeps them. -/
lemma Program.FindsBounds.lookup_eq {i : Installer} {p : Program} {name kind : String} {n : Nat}
    {content : Bytes} (h : p.FindsBounds (load i).events name)
    (hcount : i.image.header.blocks.length = Header.blockCount)
    (hrow : (name, n, kind) ∈ blockSegments) (hoffset : i.image.blockOffset n ≠ 0)
    (hblock : i.image.block n = .ok content) :
    p.segments.lookup name =
      some ⟨i.image.blockOffset n, (i.image.blockOffset n + content.length : Nat)⟩ :=
  h _ _ _ (addSegment_and_write_mem_load hcount hrow hoffset hblock).1

/-- The start of the segment of a block that is present, where the database keeps it. -/
lemma Program.FindsStart.exists_lookup {i : Installer} {p : Program} {name kind : String} {n : Nat}
    {content : Bytes} (h : p.FindsStart (load i).events name)
    (hcount : i.image.header.blocks.length = Header.blockCount)
    (hrow : (name, n, kind) ∈ blockSegments) (hoffset : i.image.blockOffset n ≠ 0)
    (hblock : i.image.block n = .ok content) :
    ∃ s, p.segments.lookup name = some s ∧ s.start = i.image.blockOffset n :=
  h _ _ _ (addSegment_and_write_mem_load hcount hrow hoffset hblock).1

/-- Look up a key that has one value only. -/
lemma lookup_eq_some_of_mem {α β : Type} [BEq α] [LawfulBEq α] {key : α} {value : β}
    {pairs : List (α × β)} (h : (key, value) ∈ pairs)
    (hone : ∀ value', (key, value') ∈ pairs → value' = value) : pairs.lookup key = some value := by
  cases hlookup : pairs.lookup key with
  | none => simpa using List.lookup_eq_none_iff.1 hlookup _ h
  | some value' =>
    obtain ⟨before, after, rfl, -⟩ := List.lookup_eq_some_iff.1 hlookup
    rw [hone value' (by simp)]

/-- The segment that an event adds. -/
def LoadEvent.segment? : LoadEvent → Option (String × Segment)
  | .addSegment name _ start stop => some (name, ⟨start, stop⟩)
  | _ => none

/-- The segments of events are those that were added. -/
lemma mem_filterMap_segment? {events : List LoadEvent} {name : String} {s : Segment} :
    (name, s) ∈ events.filterMap LoadEvent.segment? ↔
      ∃ (kind : String) (start stop : Nat), .addSegment name kind start stop ∈ events ∧
        s = ⟨start, stop⟩ := by
  rw [List.mem_filterMap]
  constructor
  · rintro ⟨e, hmem, he⟩
    cases e with
    | addSegment name' kind start stop =>
      obtain ⟨rfl, rfl⟩ := Prod.mk.inj (Option.some.inj he)
      exact ⟨kind, start, stop, hmem, rfl⟩
    | setting key value => cases he
    | write address content => cases he
    | makeName address name => cases he
    | entryPoint address name => cases he
    | chooseProcessor => cases he
  · rintro ⟨kind, start, stop, hmem, rfl⟩
    exact ⟨_, hmem, rfl⟩

/-- **A database can keep all that it is told.** For every installer there is a program that has
recorded the events, and finds the segments of all blocks with their bounds. -/
theorem exists_recorded {i : Installer}
    (hcount : i.image.header.blocks.length = Header.blockCount) :
    ∃ p, Recorded (load i).events p ∧
      ∀ row ∈ blockSegments, p.FindsBounds (load i).events row.1 := by
  refine ⟨⟨.text i.codes.version, (load i).events.filterMap LoadEvent.segment?,
    memoryOf (load i).events, []⟩, ⟨?_, rfl⟩, ?_⟩
  · intro value hvalue
    rw [(version_mem_load_iff hcount).1 hvalue]
  · rintro ⟨name, n, kind⟩ hrow kind' start stop hmem
    obtain ⟨stop', hblock⟩ := exists_block_of_mem_blockSegments hcount hrow
    refine lookup_eq_some_of_mem (mem_filterMap_segment?.2 ⟨kind', start, stop, hmem, rfl⟩) ?_
    intro s hs
    -- both segments are the one of the block with this name
    obtain ⟨kind'', start', stop'', hmem', rfl⟩ := mem_filterMap_segment?.1 hs
    obtain ⟨rfl, rfl⟩ := eq_of_addSegment_mem_load hcount hrow hblock hmem
    obtain ⟨rfl, rfl⟩ := eq_of_addSegment_mem_load hcount hrow hblock hmem'
    rfl

/-! ## Strings -/

namespace LoadedFrom

variable {i : Installer} {p : Program}

/-- Memory has the bytes of every block. -/
lemma bytes_eq (h : LoadedFrom i p) {name kind : String} {n : Nat} {content : Bytes}
    (hrow : (name, n, kind) ∈ blockSegments) (hoffset : i.image.blockOffset n ≠ 0)
    (hblock : i.image.block n = .ok content) {a k : Nat} (hle : a + k ≤ content.length) :
    p.memory.bytes (i.image.blockOffset n + a : Nat) k = (content.drop a).take k := by
  refine List.ext_getElem? fun j => ?_
  rw [Memory.bytes, List.getElem?_map, List.getElem?_take]
  split_ifs with hj
  · have hlt : a + j < content.length := by omega
    rw [List.getElem?_range hj, List.getElem?_drop, List.getElem?_eq_getElem hlt, Option.map_some,
      Option.some.injEq]
    have hbyte := h.byte hrow hoffset hblock (List.getElem?_eq_getElem hlt)
    rwa [← Nat.add_assoc, Int.natCast_add] at hbyte
  · rw [List.getElem?_eq_none (by simpa using hj), Option.map_none]

/-- The bytes of a string are those of its block, as far as the segment and a string may go. -/
lemma stringBytes_eq (h : LoadedFrom i p) (hoffset : i.image.blockOffset BlockId.strings ≠ 0)
    {strings : Bytes} (hblock : i.image.block BlockId.strings = .ok strings) {n : Nat}
    (hn : n ≤ strings.length)
    (hsegment : p.segments.lookup "STRINGS" =
      some ⟨i.image.blockOffset BlockId.strings, (i.image.blockOffset BlockId.strings + n : Nat)⟩)
    {a : Nat} (ha : a < n) :
    p.stringBytes (i.image.blockOffset BlockId.strings + a : Nat) =
      .ok (some (((strings.take n).drop a).take maxStringLength)) := by
  have hrow : ("STRINGS", BlockId.strings, "DATA") ∈ blockSegments := by decide
  have hcontains : (⟨i.image.blockOffset BlockId.strings,
      (i.image.blockOffset BlockId.strings + n : Nat)⟩ : Segment).contains
        (i.image.blockOffset BlockId.strings + a : Nat) = true := by
    simp only [Segment.contains, Bool.and_eq_true, decide_eq_true_eq]
    omega
  have hroom : ((i.image.blockOffset BlockId.strings + n : Nat) -
      (i.image.blockOffset BlockId.strings + a : Nat) : Int).toNat = n - a := by omega
  have htake : (strings.drop a).take (min (n - a) maxStringLength) =
      ((strings.take n).drop a).take maxStringLength := by
    rw [List.drop_take, List.take_take, Nat.min_comm]
  rw [Program.stringBytes, Program.segment, hsegment]
  simp only [Except.map, hcontains, if_true, hroom]
  rw [h.bytes_eq hrow hoffset hblock (by omega), htake]

/-- **Strings are decoded out of memory as they are out of their block**, or out of the part of the
block that their segment has. -/
theorem decodeAt_eq (h : LoadedFrom i p) (hoffset : i.image.blockOffset BlockId.strings ≠ 0)
    {strings : Bytes} (hblock : i.image.block BlockId.strings = .ok strings) {n : Nat}
    (hn : n ≤ strings.length)
    (hsegment : p.segments.lookup "STRINGS" =
      some ⟨i.image.blockOffset BlockId.strings, (i.image.blockOffset BlockId.strings + n : Nat)⟩)
    {a : Nat} (ha : a < n) :
    p.decodeAt (i.image.blockOffset BlockId.strings + a : Nat) =
      (symbolize (strings.take n) a (.text i.codes.version)).map some := by
  have hcodes : CodeSet.ofVersion? (.text i.codes.version) = some i.codes := by
    cases i.codes <;> rfl
  have hstart := symbolize_natCast_of_codes hcodes
    (((strings.take n).drop a).take maxStringLength) 0
  rw [Int.natCast_zero, List.drop_zero, symbolsOf, tokens_take] at hstart
  rw [Program.decodeAt, h.stringBytes_eq hoffset hblock hn hsegment ha, h.version]
  simp only [hstart]
  rw [symbolize_natCast_of_codes hcodes, symbolsOf]

end LoadedFrom

/-- What is loaded from a file is the installer in it. -/
lemma loadFile_of_read {f : File} {i : Installer} (h : Installer.read f = .ok i) :
    loadFile f = load i := by
  rw [loadFile, h]
  rfl

/-- A database can keep all that it is told about an installer in a file. -/
lemma exists_recorded_loadFile {f : File} {i : Installer} (h : Installer.read f = .ok i) :
    ∃ p, Recorded (loadFile f).events p ∧
      ∀ row ∈ blockSegments, p.FindsBounds (loadFile f).events row.1 := by
  rw [loadFile_of_read h]
  exact exists_recorded (Installer.header_of_read h).1

/-- The text of the string at an address, as a session would answer with it. -/
def Program.answerAt (p : Program) (address : Int) : Except Fault (Option Answer) :=
  (p.textAt address).map fun r => r.map fun t => .text t.1

end Script

namespace Session

open Script

variable {f : File} {s : Session} {p : Program} {strings : Bytes}

/-- A session shows every string with low codes. -/
lemma ask_text (h : (s.block BlockId.strings).1 = .ok strings) (a : Int) :
    (s.ask (.text a)).1 = (decodeString strings a (.text "3")).map fun t => .text t.1 := by
  have hstrings : (s.ask (.text a)).1 = (Strings.textAt strings a).map .text := by
    rw [ask, withStrings]
    split <;> rename_i hblock <;> rw [hblock] at h
    · rw [Except.ok.inj h]
    · cases h
  rw [hstrings, Strings.textAt, Strings.shownCoding]
  cases decodeString strings a (.text "3") <;> rfl

/-- A program that has recorded what is loaded from the file of a session shows every string with
the codes of its version. -/
lemma answerAt_eq (hs : Reached f s) (hrecorded : Recorded (loadFile f).events p)
    (hsegment : p.FindsBounds (loadFile f).events "STRINGS")
    (hoffset : s.installer.image.blockOffset BlockId.strings ≠ 0)
    (hblock : (s.block BlockId.strings).1 = .ok strings) {a : Nat} (ha : a < strings.length) :
    p.answerAt (s.installer.image.blockOffset BlockId.strings + a : Nat) =
      (decodeString strings a (.text s.installer.codes.version)).map fun t => some (.text t.1) := by
  have hcount := (Installer.header_of_read hs.sound.2).1
  have hrow : ("STRINGS", BlockId.strings, "DATA") ∈ blockSegments := by decide
  rw [loadFile_of_read hs.sound.2] at hrecorded hsegment
  rw [hs.block_eq] at hblock
  have hbounds := hsegment.lookup_eq hcount hrow hoffset hblock
  have hdecode := (hrecorded.loadedFrom hcount).decodeAt_eq hoffset hblock le_rfl hbounds ha
  rw [List.take_length] at hdecode
  rw [Program.answerAt, Program.textAt, hdecode, decodeString]
  cases symbolize strings a (.text s.installer.codes.version) <;> rfl

/-- **When a session and a program give the same text for a string.** The program is any one that
has recorded what is loaded from the file of the session, and finds the segment of strings with the
bounds that were told. Both read the same bytes. The session shows them with low codes, the program
with the codes that the strings of the installer suggest. If these are low, both have the same
outcome for every string. If they are high, both give the same text for exactly those strings that
are stored without a code byte of either coding. -/
theorem ask_text_eq_answerAt_iff (hs : Reached f s) (hrecorded : Recorded (loadFile f).events p)
    (hsegment : p.FindsBounds (loadFile f).events "STRINGS")
    (hoffset : s.installer.image.blockOffset BlockId.strings ≠ 0)
    (hblock : (s.block BlockId.strings).1 = .ok strings) {a : Nat} (ha : a < strings.length) :
    (s.ask (.text a)).1 = (decodeString strings a (.text "3")).map (fun t => .text t.1) ∧
    p.answerAt (s.installer.image.blockOffset BlockId.strings + a : Nat) =
      (decodeString strings a (.text s.installer.codes.version)).map (fun t => some (.text t.1)) ∧
    (s.installer.codes = .low →
      p.answerAt (s.installer.image.blockOffset BlockId.strings + a : Nat) =
        (s.ask (.text a)).1.map some) ∧
    (s.installer.codes = .high →
      ((∃ text, (s.ask (.text a)).1 = .ok (.text text) ∧
        p.answerAt (s.installer.image.blockOffset BlockId.strings + a : Nat) =
          .ok (some (.text text))) ↔
        ∀ c ∈ Strings.leading ((strings.drop a).take 1024), 4 < c ∧ c < 252)) := by
  have hask := ask_text hblock a
  have hanswer := answerAt_eq hs hrecorded hsegment hoffset hblock ha
  refine ⟨hask, hanswer, fun hlow => ?_, fun hhigh => ?_⟩
  · rw [hanswer, hask, hlow, CodeSet.version]
    cases decodeString strings a (.text "3") <;> rfl
  · rw [hhigh, CodeSet.version] at hanswer
    rw [hask, hanswer]
    refine Iff.trans ⟨?_, ?_⟩ exists_same_text_iff
    · rintro ⟨text, hshown, hprogram⟩
      obtain ⟨⟨low, n⟩, hlow, htext⟩ := Fault.map_eq_ok.1 hshown
      obtain ⟨⟨high, m⟩, hhigh, htext'⟩ := Fault.map_eq_ok.1 hprogram
      obtain rfl : low = text := Answer.text.inj htext
      obtain rfl : high = low := Answer.text.inj (Option.some.inj htext')
      exact ⟨_, n, m, hlow, hhigh⟩
    · rintro ⟨text, n, m, hlow, hhigh⟩
      rw [hlow, hhigh]
      exact ⟨text, rfl, rfl⟩

/-- An installer with high codes. One of its strings has a code, the other one is plain. -/
def highCodes : Frame :=
  .installer
    (List.replicate 28 0 ++ [0x2c, 0x01, 0, 0, 0, 0, 0, 0, 0x35, 0x01, 0, 0] ++
      List.replicate 260 0 ++
    [0, 0xfd, 0x95, 0x80, 0x2e, 0, 0x41, 0x42, 0]) [] (by
      simp only [List.length_append, List.length_replicate, List.length_cons, List.length_nil]
      omega)

/-- This installer has a session. -/
lemma exists_reached_highCodes :
    ∃ s, Reached ⟨highCodes.content, 0⟩ s ∧ s.installer.codes = .high ∧
      s.installer.image.blockOffset BlockId.strings = 300 ∧
      (s.block BlockId.strings).1 = .ok [0, 0xfd, 0x95, 0x80, 0x2e, 0, 0x41, 0x42, 0] := by
  obtain ⟨s, hs, hcodes, hoffset, hblock⟩ := exists_reached (f := ⟨highCodes.content, 0⟩)
    (p := fun i => i.codes = .high ∧ i.image.blockOffset BlockId.strings = 300 ∧
      i.image.block BlockId.strings = .ok [0, 0xfd, 0x95, 0x80, 0x2e, 0, 0x41, 0x42, 0])
    (by decide +kernel)
  rw [← hs.block_eq] at hblock
  exact ⟨s, hs, hcodes, hoffset, hblock⟩

/-- For the plain string, both give the same text. -/
theorem ask_text_eq_answerAt_highCodes :
    ∃ s p, Reached ⟨highCodes.content, 0⟩ s ∧
      Recorded (loadFile ⟨highCodes.content, 0⟩).events p ∧
      p.FindsBounds (loadFile ⟨highCodes.content, 0⟩).events "STRINGS" ∧
      s.installer.codes = .high ∧ ∃ text,
        (s.ask (.text 6)).1 = .ok (.text text) ∧ p.answerAt 306 = .ok (some (.text text)) := by
  obtain ⟨s, hs, hcodes, hoffset, hblock⟩ := exists_reached_highCodes
  obtain ⟨p, hrecorded, hbounds⟩ := exists_recorded_loadFile hs.sound.2
  replace hbounds := hbounds ("STRINGS", 3, "DATA") (by decide)
  obtain ⟨-, -, -, hhigh⟩ := ask_text_eq_answerAt_iff hs hrecorded hbounds
    (by rw [hoffset]; decide) hblock (a := 6) (by decide)
  rw [hoffset] at hhigh
  exact ⟨s, p, hs, hrecorded, hbounds, hcodes, (hhigh hcodes).2 (by decide +kernel)⟩

/-- **For the string with a code, they do not**: the session shows the variable in it as
characters. -/
theorem ask_text_ne_answerAt_highCodes :
    ∃ s p, Reached ⟨highCodes.content, 0⟩ s ∧
      Recorded (loadFile ⟨highCodes.content, 0⟩).events p ∧
      p.FindsBounds (loadFile ⟨highCodes.content, 0⟩).events "STRINGS" ∧
      s.installer.codes = .high ∧ (s.ask (.text 1)).1 = .ok (.text "ý\x95\x80.") ∧
      p.answerAt 301 = .ok (some (.text "$INSTALLDIR.")) := by
  obtain ⟨s, hs, hcodes, hoffset, hblock⟩ := exists_reached_highCodes
  obtain ⟨p, hrecorded, hbounds⟩ := exists_recorded_loadFile hs.sound.2
  replace hbounds := hbounds ("STRINGS", 3, "DATA") (by decide)
  have hask := ask_text hblock 1
  have hanswer := answerAt_eq hs hrecorded hbounds (by rw [hoffset]; decide) hblock (a := 1)
    (by decide)
  rw [hoffset, hcodes] at hanswer
  exact ⟨s, p, hs, hrecorded, hbounds, hcodes, hask, hanswer⟩

end Session

end Nsis
