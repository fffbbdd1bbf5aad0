import Mathlib.Data.List.Basic
import Mathlib.Tactic.SplitIfs
import Nsis.Proofs.Bzip2.Soundness
import Nsis.Proofs.Bzip2.Ticks

/-!
# Decoding arbitrary data is safe

Data may be anything. Whatever a decoder is fed with, as long as no call has failed it is sound,
tick by tick. It follows that no cell outside a table or a block is ever used, that no number leaves
the range of a signed word of 32 bits, and that every error in the data is reported by the call that
meets it.

## Main definitions

* `Nsis.Bzip2.Mode.Sound` — soundness of a decoder.
* `Nsis.Bzip2.Mode.InBounds` — what the next tick uses is there, and what it computes is in range.

## Main results

* `Nsis.Bzip2.Stream.sound_of_passes` — every decoder that a call goes through is sound.
* `Nsis.Bzip2.Stream.inBounds_of_passes` — every access is in bounds.
* `Nsis.Bzip2.Stream.errors_are_returned` — no error is lost.
-/

namespace Nsis.Bzip2

/-! ## Sound decoders -/

/-- A decoder that reads is in a sound phase, and one that writes has a sound block. -/
def Mode.Sound : Mode → Prop
  | .idle => True
  | .writing o => o.Sound
  | .reading p => p.Sound

/-- The fields of sound phases are short. -/
lemma Phase.Sound.width_le {p : Phase} (h : p.Sound) : p.width ≤ maxCodeLength := by
  cases p with
  | code place more length value g =>
    cases more with
    | false =>
      have hlength := h.2.2
      rw [if_neg (by decide)] at hlength
      exact max_le (by decide) hlength.2
    | true => exact show 1 ≤ maxCodeLength by decide
  | _ => simp only [width]; decide

/-- A field that is read in a sound phase leads on soundly. -/
lemma Phase.Sound.soundStep_of_read {p : Phase} (h : p.Sound) {r r' : BitReader} {v : Nat}
    (hread : r.read p.width = (some v, r')) : SoundStep (p.accept v) := by
  have hwidth : p.width < 32 := h.width_le.trans_lt (by decide)
  exact soundStep_accept h (BitReader.read_lt hwidth hread)

namespace Stream

/-- What a tick of a sound decoder leads to. -/
def Tick.Sound : Tick → Prop
  | .goesOn s => s.mode.Sound
  | .returns st s => st ≠ .outOfBounds ∧ (¬ st.isError → s.mode.Sound)

/-- **A tick of a sound decoder.** -/
lemma sound_tick {s : Stream} (h : s.mode.Sound) : s.tick.Sound := by
  obtain ⟨mode, reader, room⟩ := s
  cases mode with
  | idle => exact ⟨by decide, fun hok => absurd rfl hok⟩
  | writing o =>
    obtain ⟨o', hrun, ho'⟩ := Output.startRun_eq_ok_of_sound h
    simp only [tick, hrun]
    split_ifs
    · exact ⟨by decide, fun _ => Output.Sound.congr h rfl rfl⟩
    · exact ⟨by decide, fun hok => absurd rfl hok⟩
    · exact trivial
    · exact ho'
  | reading p =>
    simp only [tick]
    split
    · exact ⟨by decide, fun _ => h⟩
    · rename_i v r hread
      have hstep := Phase.Sound.soundStep_of_read h hread
      cases haccept : p.accept v with
      | wait p' =>
        rw [haccept] at hstep
        exact hstep
      | stop st m =>
        rw [haccept] at hstep
        rcases hstep with ⟨rfl, rfl⟩ | ⟨rfl, o, rfl, ho⟩ | ⟨rfl, p', rfl⟩
        · exact ⟨by decide, fun _ => trivial⟩
        · exact ho
        · exact ⟨by decide, fun hok => absurd rfl hok⟩

/-- Sound decoders go through sound decoders. -/
lemma sound_of_sound_of_passes {s t : Stream} (h : s.mode.Sound) (ht : s.Passes t) :
    t.mode.Sound := by
  induction ht with
  | refl => exact h
  | tail _ htick ih =>
    have hsound := sound_tick ih
    rwa [htick] at hsound

/-- A decoder of which no call has failed is sound. -/
lemma Lives.sound {s : Stream} (h : s.Lives) : s.mode.Sound := by
  induction h with
  | start => exact trivial
  | feed input _ ih => exact ih
  | offer room _ ih => exact ih
  | @call s _ hok ih =>
    obtain ⟨t, u, hpasses, htick, hu⟩ := exists_passes s
    have hsound := sound_tick (sound_of_sound_of_passes ih hpasses)
    rw [htick] at hsound
    rw [← hu hok]
    exact hsound.2 hok

/-- **Every decoder that a call goes through is sound.** -/
theorem sound_of_passes {s t : Stream} (hs : s.Lives) (ht : s.Passes t) : t.mode.Sound :=
  sound_of_sound_of_passes hs.sound ht

end Stream

/-! ## Bounds -/

/-- A number that a signed word of 32 bits holds. -/
def InWord (x : Int) : Prop :=
  -2 ^ 31 ≤ x ∧ x < 2 ^ 31

/-- Every code stands for a symbol of the alphabet, whose place in the table was filled, or for
none, and the numbers of the table are in range, with those that are computed to make it and to use
it. -/
structure CodeTable.InBounds (t : CodeTable) (alphabet : Nat) : Prop where
  symbol_lt : ∀ n v s, t.lookup n v = .symbol s → s < alphabet
  filled : ∀ n v, t.lookup n v ≠ .unfilled
  size : t.limit.size = 23 ∧ t.base.size = 23
  limit : ∀ x ∈ t.limit, InWord x ∧ InWord (2 * (x + 1))
  base : ∀ x ∈ t.base, InWord x
  rank : ∀ x ∈ t.base, ∀ v < 2 ^ 21, InWord ((v : Nat) - x)

/-- The places for the next table, code length and selector are there. -/
structure Draft.InBounds (d : Draft) : Prop where
  origin : InWord d.origin.toNat
  used : d.used.size ≤ 256
  selectors : d.selectors.size ≤ 18002 ∧ ∀ s ∈ d.selectors, s < d.count
  tables : d.tables.size < d.count ∧ d.count ≤ 6
  table : ∀ t ∈ d.tables, t.InBounds (d.used.size + 2)
  lengths : d.lengths.size < d.used.size + 2

/-- Whatever the next symbol of a block is, all that it selects is there. -/
structure Gathering.InBounds (g : Gathering) : Prop where
  origin : InWord g.plan.origin.toNat
  used : g.plan.used.size ≤ 256
  selectors : g.plan.selectors.size ≤ 18002 ∧ ∀ s ∈ g.plan.selectors, s < g.plan.tables.size
  group : 0 < g.group ∧ g.group ≤ g.plan.selectors.size
  selected : ∃ s : Nat, g.plan.selectors[g.group - 1]? = some s ∧ g.plan.tables[s]? = some g.table
  tables : g.plan.tables.size ≤ 6 ∧ ∀ t ∈ g.plan.tables, t.InBounds (g.plan.used.size + 2)
  store : g.windows.cells.size = 4096 ∧ g.windows.bases.size = 16
  front : ∃ r, g.windows.front = some r ∧ r.toNat < g.plan.used.size
  take : ∀ n < g.plan.used.size, ∃ r w, g.windows.take n = some (r, w) ∧ r.toNat < g.plan.used.size
  run : InWord g.run ∧ InWord (g.run + 2 * g.weight) ∧ InWord (2 * g.weight)
  counts : g.counts.size = 256 ∧ ∀ c ∈ g.counts, c ≤ g.cells.size ∧ InWord (c + (g.run + 1))
  cells : g.cells.size ≤ 900000
  flush : ∀ g', g.flush = .ok g' ∨ (∃ st, g.flush = .error (st, g')) → g'.cells.size ≤ 900000
  starts : (starts g.counts).size = 257 ∧ ∀ p ∈ starts g.counts, p ≤ g.cells.size
  links : ∃ cells, linkCells g.cells (Nsis.Bzip2.starts g.counts) = some cells ∧
    cells.size = g.cells.size ∧ ∀ c ∈ cells, c.link < g.cells.size

/-- Whatever the next byte is, the cell to read is inside the block. -/
structure Output.InBounds (o : Output) : Prop where
  cells : o.cells.size ≤ 900000
  pos : o.pos < o.cells.size
  link : ∀ c ∈ o.cells, c.link < o.cells.size
  startRun : ∃ o', o.startRun = .ok o'

/-- Whatever the next field is, all that it selects is there. -/
def Phase.InBounds : Phase → Prop
  | mark => True
  | origin _ value => ∀ v < 256, InWord (256 * value.toNat + (v : Nat))
  | rangeMap row todo found => InWord row.toNat ∧ found.length + todo.length ≤ 16
  | byteMap row todo found => InWord row.toNat ∧ found.length + todo.length ≤ 256
  | tableCount row used => InWord row.toNat ∧ used.size ≤ 256
  | selectorCount row used count => InWord row.toNat ∧ used.size ≤ 256 ∧ count ≤ 6
  | selector row used count _ ones ranks =>
    InWord row.toNat ∧ used.size ≤ 256 ∧ count ≤ 6 ∧ ones < count ∧ ranks.size ≤ 18002 ∧
      ∃ items, undoRanks (List.range count) ranks.toList = some items ∧ ∀ s ∈ items, s < count
  | firstLength d => d.InBounds
  | lengthChanges d length =>
    d.InBounds ∧ 1 ≤ length ∧ length ≤ 20 ∧
      (d.lengths.size = d.used.size + 1 →
        (CodeTable.ofCode (d.lengths.push length.toNat).toList).InBounds (d.used.size + 2))
  | lengthShrinks d length => d.InBounds ∧ 1 ≤ length ∧ length ≤ 20
  | code _ more length value g =>
    g.InBounds ∧ length ≤ 21 ∧
      ∀ v < 2 ^ (if more then 1 else length), (if more then 2 * value + v else v) < 2 ^ 21

/-- What the next tick of a decoder uses is there, and what it computes is in range. -/
def Mode.InBounds : Mode → Prop
  | .idle => True
  | .writing o => o.InBounds
  | .reading p => p.InBounds

/-! ## Sound decoders stay in bounds -/

namespace CodeTable

variable {lengths : List Nat}

/-- There are not too many codes, even if they do not fit beside one another. -/
lemma taken_add_count_le_word (h : Admissible lengths) (hlen : lengths.length ≤ maxAlphabet)
    {n : Nat} (hn : n ≤ maxCodeLength) : taken lengths n + lengths.count n ≤ 258 * 2 ^ 20 :=
  calc taken lengths n + lengths.count n
      ≤ lengths.length * 2 ^ n := taken_add_count_le h.pos n
    _ ≤ maxAlphabet * 2 ^ maxCodeLength :=
        Nat.mul_le_mul hlen (Nat.pow_le_pow_right (by decide) hn)

/-- The limits of a table fit into a signed word. -/
lemma range_of_mem_limit (h : Admissible lengths) (hlen : lengths.length ≤ maxAlphabet) {x : Int}
    (hx : x ∈ (ofCode lengths).limit) : -1 ≤ x ∧ x < 258 * 2 ^ 20 := by
  rw [ofCode_eq] at hx
  obtain ⟨n, rfl⟩ := Array.mem_ofFn.1 hx
  by_cases hn : shortest lengths ≤ n ∧ n ≤ longest lengths
  · have hle := taken_add_count_le_word h hlen (hn.2.trans h.longest_le_max)
    rw [limitFor_eq h hn.1 hn.2]
    omega
  · rw [limitFor, if_neg hn]
    decide

/-- The bases of a table fit into a signed word. -/
lemma range_of_mem_base (h : Admissible lengths) (hlen : lengths.length ≤ maxAlphabet) {x : Int}
    (hx : x ∈ (ofCode lengths).base) : -258 ≤ x ∧ x ≤ 258 * 2 ^ 20 := by
  rw [ofCode_eq] at hx
  obtain ⟨n, rfl⟩ := Array.mem_ofFn.1 hx
  have hbelow : countBelow lengths n ≤ 258 := (countBelow_le lengths n).trans hlen
  by_cases hn : shortest lengths ≤ n ∧ n ≤ longest lengths
  · have hle := taken_add_count_le_word h hlen (hn.2.trans h.longest_le_max)
    rw [baseFor_eq h hn.1 hn.2]
    omega
  · rw [baseFor, if_neg (by omega)]
    omega

/-- **Every table is in bounds**, whether or not its codes fit beside one another. -/
lemma inBounds_ofCode (h : Admissible lengths) {used : Nat} (hlen : lengths.length = used + 2)
    (hused : used ≤ 256) : (ofCode lengths).InBounds (used + 2) := by
  have hle : lengths.length ≤ maxAlphabet := by
    rw [maxAlphabet]
    omega
  exact
    { symbol_lt := fun n v s hs => hlen ▸ lt_of_lookup_eq_symbol hs
      filled := lookup_ne_unfilled h
      size := ⟨Array.size_ofFn, Array.size_ofFn⟩
      limit := fun x hx => by
        have hrange := range_of_mem_limit h hle hx
        exact ⟨⟨by omega, by omega⟩, by omega, by omega⟩
      base := fun x hx => by
        have hrange := range_of_mem_base h hle hx
        exact ⟨by omega, by omega⟩
      rank := fun x hx v hv => by
        have hrange := range_of_mem_base h hle hx
        exact ⟨by omega, by omega⟩ }

end CodeTable

/-- A row that a block announces is in range. -/
lemma inWord_origin {row : UInt32} (h : row.toNat ≤ maxOrigin) : InWord row.toNat := by
  simp only [maxOrigin, maxBlock] at h
  exact ⟨by omega, by omega⟩

/-- A sound draft of a plan is inside its bounds. -/
lemma Draft.Sound.inBounds {d : Draft} (h : d.Sound) : d.InBounds where
  origin := inWord_origin h.origin_le
  used := h.used_le
  selectors := ⟨h.selectors_le, h.selector_lt⟩
  tables := ⟨h.tables_lt, h.count_le⟩
  table t ht := by
    obtain ⟨lengths, hadm, hlen, rfl⟩ := h.table t ht
    exact CodeTable.inBounds_ofCode hadm hlen h.used_le
  lengths := h.lengths_lt

/-- A sound output is inside its bounds. -/
lemma Output.Sound.inBounds {o : Output} (h : o.Sound) : o.InBounds where
  cells := h.size_le
  pos := h.pos_lt
  link := h.link_lt
  startRun := by
    obtain ⟨o', hrun, -⟩ := startRun_eq_ok_of_sound h
    exact ⟨o', hrun⟩

namespace Gathering

/-- A run never makes a block too large, not even one that does not fit. -/
lemma size_cells_flush_le {g g' : Gathering} (h : g.cells.size ≤ maxBlock)
    (hflush : g.flush = .ok g' ∨ ∃ st, g.flush = .error (st, g')) : g'.cells.size ≤ maxBlock := by
  obtain ⟨plan, table, group, left, run, weight, windows, counts, cells⟩ := g
  simp only [flush] at hflush
  simp only at h
  split at hflush
  · rcases hflush with hflush | ⟨st, hflush⟩
    · cases hflush
    · cases hflush
      exact h
  · split_ifs at hflush
    · rcases hflush with hflush | ⟨st, hflush⟩
      · cases hflush
        simp only [Array.size_append, Array.size_replicate]
        omega
      · cases hflush
    · rcases hflush with hflush | ⟨st, hflush⟩
      · cases hflush
      · cases hflush
        simp only [Array.size_append, Array.size_replicate]
        omega

/-- The byte at a position of the windows is one that occurs. -/
lemma Shows.item_lt {g : Gathering} {order column : Bytes} (h : g.Shows order column) {n : Nat}
    (hn : n < g.plan.used.size) {r : UInt8} (hr : g.windows.toList[n]? = some r) :
    r.toNat < g.plan.used.size := by
  have hused := h.used_eq n hn
  have hlen := h.length_order
  rw [hr, Option.bind_some, List.getElem?_eq_getElem (by omega)] at hused
  exact (Array.getElem?_eq_some_iff.1 hused).1

/-- No byte is counted more often than there are cells. -/
lemma Shows.count_le {g : Gathering} {order column : Bytes} (h : g.Shows order column) {c : Nat}
    (hc : c ∈ g.counts) : c ≤ g.cells.size := by
  rw [h.counts_eq, tally] at hc
  obtain ⟨b, rfl⟩ := Array.mem_ofFn.1 hc
  rw [h.cells_eq, size_cellsOf]
  exact List.count_le_length

/-- The rows of no byte start behind the last cell. -/
lemma Shows.start_le {g : Gathering} {order column : Bytes} (h : g.Shows order column) {p : Nat}
    (hp : p ∈ starts g.counts) : p ≤ g.cells.size := by
  rw [h.counts_eq] at hp
  obtain ⟨k, hk, rfl⟩ := Array.getElem_of_mem hp
  rw [← nth_eq_getElem hk, nth_starts column (by rw [size_starts] at hk; omega), h.cells_eq,
    size_cellsOf]
  exact List.countP_le_length

/-- **Sound gatherings are in bounds.** -/
lemma Sound.inBounds {g : Gathering} (h : g.Sound) (hsel : g.Selected) : g.InBounds := by
  obtain ⟨c, order, column, hshows⟩ := h.shows
  obtain ⟨s, hgroup, hs⟩ := hsel
  have hused := h.plan.used_le
  have hpos := h.plan.used_pos
  obtain ⟨hrun, hrun'⟩ := h.run_range
  obtain ⟨hweight, hweight'⟩ := h.weight_range
  have hcells : g.cells.size ≤ maxBlock := by
    rw [hshows.cells_eq, size_cellsOf]
    exact hshows.length_le
  simp only [maxWeight] at hweight'
  exact
    { origin := inWord_origin h.plan.origin_le
      used := hused
      selectors := ⟨h.plan.selectors_le, h.plan.selector_lt⟩
      group := ⟨hgroup, h.group_le⟩
      selected := ⟨s, hs⟩
      tables := ⟨h.plan.tables_le, fun t ht => by
        obtain ⟨lengths, hadm, hlen, rfl⟩ := h.plan.table t ht
        exact CodeTable.inBounds_ofCode hadm hlen hused⟩
      store := ⟨hshows.sound.size_cells, hshows.sound.size_bases⟩
      front := by
        have hfront := Windows.front_eq hshows.sound
        refine ⟨_, hfront, hshows.item_lt hpos ?_⟩
        rw [Windows.toList_eq hshows.sound]
        simp
      take := fun n hn => by
        obtain ⟨r, w, htake, -, hr, -⟩ := Windows.take_toList hshows.sound (hn.trans_le hused)
        exact ⟨r, w, htake, hshows.item_lt hn hr⟩
      run := ⟨⟨by omega, by omega⟩, ⟨by omega, by omega⟩, by omega, by omega⟩
      counts := by
        refine ⟨by rw [hshows.counts_eq, size_tally], fun c hc => ?_⟩
        have hle := hshows.count_le hc
        simp only [maxBlock] at hcells
        exact ⟨hle, by omega, by omega⟩
      cells := hcells
      flush := fun g' => size_cells_flush_le hcells
      starts := ⟨by rw [hshows.counts_eq, size_starts], fun p hp => hshows.start_le hp⟩
      links := by
        obtain ⟨cells, hcells', hlinked⟩ := linkCells_eq_some column
          (hshows.length_le.trans (by decide))
        refine ⟨cells, ?_, ?_, fun c hc => ?_⟩
        · rw [hshows.cells_eq, hshows.counts_eq, hcells']
        · rw [hshows.cells_eq, size_cellsOf, hlinked.size_eq]
        · rw [hshows.cells_eq, size_cellsOf]
          exact hlinked.link_lt hc }

end Gathering

/-- **Sound phases are in bounds.** -/
lemma Phase.Sound.inBounds {p : Phase} (h : p.Sound) : p.InBounds := by
  cases p with
  | mark => exact trivial
  | origin left value =>
    intro v hv
    have hvalue : value.toNat < 2 ^ 16 :=
      h.2.trans_le (Nat.pow_le_pow_right (by decide) (by omega))
    exact ⟨by omega, by omega⟩
  | rangeMap row todo found => exact ⟨inWord_origin h.1, h.2⟩
  | byteMap row todo found => exact ⟨inWord_origin h.1, h.2⟩
  | tableCount row used => exact ⟨inWord_origin h.1, h.2.2⟩
  | selectorCount row used count => exact ⟨inWord_origin h.1, h.2.2.1, h.2.2.2.2⟩
  | selector row used count left ones ranks =>
    obtain ⟨hrow, -, hused, -, hcount, hones, hranks, hsize⟩ := h
    obtain ⟨items, hitems, -, hmem⟩ :=
      undoRanks_eq_some (List.range count) ranks.toList fun r hr => by
      rw [List.length_range]
      exact hranks r (Array.mem_def.2 hr)
    exact ⟨inWord_origin hrow, hused, hcount, hones, hsize, items, hitems,
      fun s hs => List.mem_range.1 (hmem s hs)⟩
  | firstLength d => exact Draft.Sound.inBounds h
  | lengthChanges d length =>
    obtain ⟨hd, hlength⟩ := h
    refine ⟨hd.inBounds, hlength.1, hlength.2, fun hlast => ?_⟩
    have hadm := admissible_toList (range_push hd.length_range hlength) (by simp)
    exact CodeTable.inBounds_ofCode hadm (by simp [hlast]) hd.used_le
  | lengthShrinks d length => exact ⟨h.1.inBounds, h.2⟩
  | code place more length value g =>
    obtain ⟨hg, hsel, hcode⟩ := h
    refine ⟨hg.inBounds hsel, ?_⟩
    cases more with
    | false =>
      simp only [Bool.false_eq_true, if_false, maxCodeLength] at hcode ⊢
      refine ⟨by omega, fun v hv => hv.trans_le (Nat.pow_le_pow_right (by decide) (by omega))⟩
    | true =>
      simp only [if_true, maxCodeLength] at hcode ⊢
      have hpow : 2 ^ (length - 1) ≤ 2 ^ 20 := Nat.pow_le_pow_right (by decide) (by omega)
      exact ⟨hcode.2.1, fun v hv => by omega⟩

/-- A sound mode is inside its bounds. -/
lemma Mode.Sound.inBounds {m : Mode} (h : m.Sound) : m.InBounds := by
  cases m with
  | idle => exact trivial
  | writing o => exact Output.Sound.inBounds h
  | reading p => exact Phase.Sound.inBounds h

namespace Stream

/-- A block of one byte with three codes of one bit each, which do not fit beside one another, and
with a run that is too long. -/
def crowded : Stream :=
  setInput {} [0x31, 0x00, 0x00, 0x00, 0x02, 0x00, 0x40, 0x00, 0x40, 0x00, 0x41, 0x01, 0x1f,
    0xff, 0xff, 0xe0]

end Stream

/-! ## Errors -/

/-- The counts of a gathered block add up to its size, and so what is checked after it was marked as
ready is true. -/
structure Gathering.Consistent (g : Gathering) : Prop where
  sum_counts : g.counts.toList.sum = g.cells.size
  starts_valid : startsValid g.counts (starts g.counts) g.cells.size = true
  not_late : ∀ st o, g.finish ≠ .late st o

/-- All bytes of a column are counted. -/
lemma sum_tally (column : Bytes) : (tally column).toList.sum = column.length := by
  have hsum := sum_take_tally column le_rfl
  rw [List.take_of_length_le (by simp)] at hsum
  rw [hsum, List.countP_eq_length]
  intro b _
  simpa using b.toNat_lt

/-- Counts and cells that show a column agree. -/
lemma Gathering.Shows.consistent {g : Gathering} {order column : Bytes} (h : g.Shows order column) :
    g.Consistent where
  sum_counts := by rw [h.counts_eq, h.cells_eq, sum_tally, size_cellsOf]
  starts_valid := by
    rw [h.counts_eq, h.cells_eq]
    exact startsValid_tally column (size_cellsOf column).symm
  not_late st o := by
    rw [h.finish_eq]
    split_ifs with horigin
    · exact fun hlate => by cases hlate
    · obtain ⟨cells, -, hready⟩ := link_eq_ready h.length_le (Nat.not_le.1 horigin)
      rw [hready]
      exact fun hlate => by cases hlate

/-- Sound gatherings are consistent, also after the run that ends with the block. -/
lemma Gathering.Sound.consistent {g : Gathering} (h : g.Sound) (hsel : g.Selected) :
    g.Consistent ∧ ∀ g', g.flush = .ok g' → g'.Consistent := by
  obtain ⟨c, order, column, hshows⟩ := h.shows
  refine ⟨hshows.consistent, fun g' hflush => ?_⟩
  rcases h.soundResult_flush hsel with ⟨g₁, h₁, hg₁, -⟩ | ⟨g₁, h₁⟩
  · obtain rfl : g₁ = g' := by simpa [h₁] using hflush
    obtain ⟨c, order, column, hshows⟩ := hg₁.shows
    exact hshows.consistent
  · simp [h₁] at hflush

/-- However far a sound phase is run, it stops as its last field says. -/
lemma Phase.Sound.soundStep_of_run {p : Phase} (h : p.Sound) {r r' : BitReader} {st : Status}
    {m : Mode} (hrun : p.run r = .stopped st m r') : SoundStep (.stop st m) := by
  fun_induction run p r with
  | case1 p r r₁ h₁ => cases hrun
  | case2 p r v r₁ h₁ p₁ hp ih =>
    have hstep := h.soundStep_of_read h₁
    rw [hp] at hstep
    exact ih hstep hrun
  | case3 p r v r₁ h₁ s₁ m₁ hs =>
    have hstep := h.soundStep_of_read h₁
    rw [hs] at hstep
    cases hrun
    exact hstep

namespace Stream

/-- **No error is lost.** While a block is gathered, its counts add up to its size, and nothing that
is checked after the block was marked as ready is found invalid; when it is written, every byte of
it can be read. Hence reading that stops with an error stops before there is a block to be written,
and the error is what the call returns. -/
theorem errors_are_returned {s t : Stream} (hs : s.Lives) (ht : s.Passes t) :
    (∀ place more length value g, t.mode = .reading (.code place more length value g) →
        g.Consistent ∧ ∀ g', g.flush = .ok g' → g'.Consistent) ∧
      (∀ o, t.mode = .writing o →
        o.pos < o.cells.size ∧ o.cells.size ≤ maxBlock ∧ (∃ b o', o.next = .ok (b, o')) ∧
          ∃ o', o.startRun = .ok o') ∧
      ∀ p st m r, t.mode = .reading p → p.run t.reader = .stopped st m r → st ≠ .ok →
        st ≠ .streamEnd → (∀ o, m ≠ .writing o) ∧ s.call.status = st := by
  have hsound := sound_of_passes hs ht
  refine ⟨fun place more length value g hm => ?_, fun o hm => ?_,
    fun p st m r hm hrun hok hend => ?_⟩
  · rw [hm] at hsound
    exact Gathering.Sound.consistent hsound.1 hsound.2.1
  · rw [hm] at hsound
    obtain ⟨b, o₁, hnext, -⟩ := Output.next_eq_ok_of_sound hsound
    obtain ⟨o₂, hstart, -⟩ := Output.startRun_eq_ok_of_sound hsound
    exact ⟨hsound.pos_lt, hsound.size_le, ⟨b, o₁, hnext⟩, o₂, hstart⟩
  · rw [hm] at hsound
    rcases Phase.Sound.soundStep_of_run hsound hrun with ⟨rfl, -⟩ | ⟨rfl, -⟩ | ⟨rfl, p', rfl⟩
    · exact absurd rfl hend
    · exact absurd rfl hok
    · refine ⟨fun o => by simp, ?_⟩
      rw [status_call_of_passes ht, call, loop_of_reading hm, hrun]

/-- A tick that reads and fails is where reading stops. -/
lemma run_of_returns_dataError {s u : Stream} {p : Phase} (hm : s.mode = .reading p)
    (h : s.tick = .returns .dataError u) : ∃ m r, p.run s.reader = .stopped .dataError m r := by
  simp only [tick, hm] at h
  split at h
  · cases h
  · rename_i v r hread
    cases haccept : p.accept v with
    | wait p' => simp [haccept] at h
    | stop st m =>
      cases st with
      | dataError => exact ⟨m, r, Phase.run_of_stop hread haccept⟩
      | _ => cases m <;> simp [haccept] at h

/-- The symbols of the crowded block fail, and so does the call. -/
theorem error_of_crowded :
    (crowded.after 68).mode.number = 26 ∧ (crowded.after 68).tick.status? = some .dataError ∧
      crowded.call.status = .dataError := by
  have hlives : crowded.Lives := .feed _ .start
  have hreturned : ∀ t, crowded.Passes t → t.mode.number = 26 → t.tick.status? = some .dataError →
      crowded.call.status = .dataError := by
    intro t ht hnumber htick
    cases hm : t.mode with
    | idle => simp [hm, Mode.number] at hnumber
    | writing o => simp [hm, Mode.number] at hnumber
    | reading p =>
      obtain ⟨u, hu⟩ := Tick.returns_of_status? htick
      obtain ⟨m, r, hrun⟩ := run_of_returns_dataError hm hu
      exact ((errors_are_returned hlives ht).2.2 p _ m r hm hrun (by decide) (by decide)).2
  have hnumber : (crowded.after 68).mode.number = 26 := by decide +kernel
  have htick : (crowded.after 68).tick.status? = some .dataError := by decide +kernel
  exact ⟨hnumber, htick, hreturned _ (passes_after crowded 68) hnumber htick⟩

end Stream

end Nsis.Bzip2
