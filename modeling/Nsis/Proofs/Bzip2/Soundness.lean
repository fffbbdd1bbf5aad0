import Mathlib.Data.List.Basic
import Mathlib.Order.Nat
import Mathlib.Tactic.SplitIfs
import Nsis.Bzip2.Phase
import Nsis.Proofs.Bzip2.BitQueue
import Nsis.Proofs.Bzip2.CanonicalCode
import Nsis.Proofs.Bzip2.Gathered

/-!
# Sound phases

Whatever the input, the phases of a decoder stay sound: its tables belong to code lengths in range,
its selectors select tables, its windows show the bytes that occur, and its counts are those of the
column gathered so far. A field of a sound phase leads to a sound phase, to a block whose links stay
inside it, to the end of the data, or to an error in the data, and never to a cell that is not
there.

## Main definitions

* `Nsis.Bzip2.Plan.Sound`, `Nsis.Bzip2.Draft.Sound`, `Nsis.Bzip2.Gathering.Sound`,
  `Nsis.Bzip2.Phase.Sound`, `Nsis.Bzip2.Output.Sound` — soundness.
* `Nsis.Bzip2.Phase.SoundStep` — what a field of a sound phase leads to.

## Main results

* `Nsis.Bzip2.Output.startRun_eq_ok_of_sound` — a sound block can be written on.
* `Nsis.Bzip2.Phase.soundStep_accept` — a field of a sound phase.
-/

namespace Nsis.Bzip2

/-- Tables, selectors and bytes that go together. -/
structure Plan.Sound (p : Plan) : Prop where
  origin_le : p.origin.toNat ≤ maxOrigin
  used_pos : 0 < p.used.size
  used_le : p.used.size ≤ 256
  table : ∀ t ∈ p.tables, ∃ lengths, CodeTable.Admissible lengths ∧
    lengths.length = p.used.size + 2 ∧ t = .ofCode lengths
  tables_le : p.tables.size ≤ 6
  selector_lt : ∀ s ∈ p.selectors, s < p.tables.size
  selectors_le : p.selectors.size ≤ maxSelectors

/-- The bytes and selectors of a block whose tables are being read, and the tables so far. -/
structure Draft.Sound (d : Draft) : Prop where
  origin_le : d.origin.toNat ≤ maxOrigin
  used_pos : 0 < d.used.size
  used_le : d.used.size ≤ 256
  table : ∀ t ∈ d.tables, ∃ lengths, CodeTable.Admissible lengths ∧
    lengths.length = d.used.size + 2 ∧ t = .ofCode lengths
  tables_lt : d.tables.size < d.count
  count_le : d.count ≤ 6
  selector_lt : ∀ s ∈ d.selectors, s < d.count
  selectors_le : d.selectors.size ≤ maxSelectors
  length_range : ∀ n ∈ d.lengths, 1 ≤ n ∧ n ≤ maxCodeLength
  lengths_lt : d.lengths.size < d.used.size + 2

/-- A gathering with a sound plan, that shows a column, and whose run is not too long. -/
structure Gathering.Sound (g : Gathering) : Prop where
  plan : g.plan.Sound
  shows : ∃ c order column, g.Shows (c :: order) column
  group_le : g.group ≤ g.plan.selectors.size
  weight_range : 1 ≤ g.weight ∧ g.weight ≤ 2 * maxWeight
  run_range : -1 ≤ g.run ∧ g.run + 1 ≤ 2 * g.weight

/-- The table of a gathering is the one that its group selects. -/
def Gathering.Selected (g : Gathering) : Prop :=
  ∃ s, 0 < g.group ∧ g.plan.selectors[g.group - 1]? = some s ∧ g.plan.tables[s]? = some g.table

/-- What holds while a phase waits for its field. -/
def Phase.Sound : Phase → Prop
  | mark => True
  | origin left value => left ≤ 2 ∧ value.toNat < 2 ^ (8 * (2 - left))
  | rangeMap row todo found => row.toNat ≤ maxOrigin ∧ found.length + todo.length ≤ 16
  | byteMap row todo found => row.toNat ≤ maxOrigin ∧ found.length + todo.length ≤ 256
  | tableCount row used => row.toNat ≤ maxOrigin ∧ 0 < used.size ∧ used.size ≤ 256
  | selectorCount row used count =>
    row.toNat ≤ maxOrigin ∧ 0 < used.size ∧ used.size ≤ 256 ∧ 2 ≤ count ∧ count ≤ 6
  | selector row used count _ ones ranks =>
    row.toNat ≤ maxOrigin ∧ 0 < used.size ∧ used.size ≤ 256 ∧ 2 ≤ count ∧ count ≤ 6 ∧
      ones < count ∧ (∀ r ∈ ranks, r < count) ∧ ranks.size ≤ maxSelectors
  | firstLength d => d.Sound
  | lengthChanges d length => d.Sound ∧ 1 ≤ length ∧ length ≤ maxCodeLength
  | lengthShrinks d length => d.Sound ∧ 1 ≤ length ∧ length ≤ maxCodeLength
  | code _ more length value g =>
    g.Sound ∧ g.Selected ∧
      if more then 1 ≤ length ∧ length ≤ maxCodeLength + 1 ∧ value < 2 ^ (length - 1)
      else 1 ≤ length ∧ length ≤ maxCodeLength

/-- A block whose links stay inside it. -/
structure Output.Sound (o : Output) : Prop where
  pos_lt : o.pos < o.cells.size
  link_lt : ∀ c ∈ o.cells, c.link < o.cells.size
  size_le : o.cells.size ≤ maxBlock

/-- What a field of a sound phase leads to: a sound phase, the end of the data, a sound block, or an
error in the data before there is a block. -/
def Phase.SoundStep : Step → Prop
  | .wait p => p.Sound
  | .stop s m =>
    (s = .streamEnd ∧ m = .idle) ∨ (s = .ok ∧ ∃ o : Output, m = .writing o ∧ o.Sound) ∨
      s = .dataError ∧ ∃ p, m = .reading p

/-! ## Blocks -/

namespace Output

/-- A byte of a sound block can be read. -/
lemma next_eq_ok_of_sound {o : Output} (h : o.Sound) :
    ∃ b o', o.next = .ok (b, o') ∧ o'.Sound := by
  obtain ⟨c, hc⟩ : ∃ c, o.cells[o.pos]? = some c := ⟨_, getElem?_eq_nth h.pos_lt⟩
  have hpos : ¬ maxBlock ≤ o.pos := by
    have h₁ := h.pos_lt
    have h₂ := h.size_le
    omega
  refine ⟨c.byte, { o with pos := c.link, used := o.used + 1 }, by rw [next, if_neg hpos, hc], ?_⟩
  exact ⟨h.link_lt c (Array.mem_of_getElem? hc), h.link_lt, h.size_le⟩

/-- The next byte does not depend on the run. -/
lemma Sound.congr {o o' : Output} (h : o.Sound) (hcells : o'.cells = o.cells)
    (hpos : o'.pos = o.pos) : o'.Sound :=
  ⟨hcells ▸ hpos ▸ h.pos_lt, hcells ▸ h.link_lt, hcells ▸ h.size_le⟩

/-- **A sound block can be written on.** -/
lemma startRun_eq_ok_of_sound {o : Output} (h : o.Sound) :
    ∃ o', o.startRun = .ok o' ∧ o'.Sound := by
  -- up to five bytes are read, one after the other
  obtain ⟨b₁, o₁, h₁, s₁⟩ := next_eq_ok_of_sound h
  obtain ⟨b₂, o₂, h₂, s₂⟩ := next_eq_ok_of_sound s₁
  obtain ⟨b₃, o₃, h₃, s₃⟩ := next_eq_ok_of_sound s₂
  obtain ⟨b₄, o₄, h₄, s₄⟩ := next_eq_ok_of_sound s₃
  obtain ⟨b₅, o₅, h₅, s₅⟩ := next_eq_ok_of_sound s₄
  simp only [startRun, bind, Except.bind, h₁, h₂, h₃, h₄, h₅]
  split_ifs
  · exact ⟨_, rfl, s₁.congr rfl rfl⟩
  · exact ⟨_, rfl, s₁.congr rfl rfl⟩
  · exact ⟨_, rfl, s₂.congr rfl rfl⟩
  · exact ⟨_, rfl, s₂.congr rfl rfl⟩
  · exact ⟨_, rfl, s₃.congr rfl rfl⟩
  · exact ⟨_, rfl, s₃.congr rfl rfl⟩
  · exact ⟨_, rfl, s₅.congr rfl rfl⟩

end Output

/-! ## Gatherings -/

namespace Gathering

/-- The result of a step of gathering: a sound gathering, or an error in the data. -/
def SoundResult (r : Result) : Prop :=
  (∃ g, r = .ok g ∧ g.Sound ∧ (g.left = 0 ∨ g.Selected)) ∨ ∃ g, r = .error (.dataError, g)

/-- The selected table belongs to code lengths in range. -/
lemma Selected.table_eq {g : Gathering} (h : g.Selected) (hg : g.plan.Sound) :
    ∃ lengths, CodeTable.Admissible lengths ∧ lengths.length = g.plan.used.size + 2 ∧
      g.table = .ofCode lengths := by
  obtain ⟨s, -, -, hs⟩ := h
  exact hg.table g.table (Array.mem_of_getElem? hs)

namespace Sound

variable {g : Gathering}

/-- At the end of a group, the next selector is there, or the data are invalid. -/
lemma soundResult_nextCode (h : g.Sound) (hsel : g.left = 0 ∨ g.Selected) :
    (∃ g', g.nextCode = .ok g' ∧ g'.Sound ∧ g'.Selected) ∨
      ∃ g', g.nextCode = .error (.dataError, g') := by
  rw [nextCode]
  by_cases hleft : g.left = 0
  · rw [if_pos hleft]
    cases hs : g.plan.selectors[g.group]? with
    | none => exact .inr ⟨g, rfl⟩
    | some s =>
      obtain ⟨hgroup, rfl⟩ := Array.getElem?_eq_some_iff.1 hs
      have hlt := h.plan.selector_lt _ (Array.getElem_mem hgroup)
      simp only [Array.getElem?_eq_getElem hlt]
      refine .inl ⟨_, rfl, ?_, ?_⟩
      · obtain ⟨c, order, column, hshows⟩ := h.shows
        exact ⟨h.plan, ⟨c, order, column, hshows.congr rfl rfl rfl rfl⟩, hgroup, h.weight_range,
          h.run_range⟩
      · exact ⟨_, Nat.succ_pos _, hs, Array.getElem?_eq_getElem hlt⟩
  · rw [if_neg hleft]
    refine .inl ⟨_, rfl, ?_, hsel.resolve_left hleft⟩
    obtain ⟨c, order, column, hshows⟩ := h.shows
    exact ⟨h.plan, ⟨c, order, column, hshows.congr rfl rfl rfl rfl⟩, h.group_le, h.weight_range,
      h.run_range⟩

/-- A run can begin at any time. -/
lemma beginRun (h : g.Sound) : g.beginRun.Sound := by
  obtain ⟨c, order, column, hshows⟩ := h.shows
  exact ⟨h.plan, ⟨c, order, column, hshows.congr rfl rfl rfl rfl⟩, h.group_le,
    show 1 ≤ 1 ∧ 1 ≤ 2 * maxWeight by decide,
    show (-1 : Int) ≤ -1 ∧ (-1 : Int) + 1 ≤ 2 * 1 by decide⟩

/-- A digit makes a run longer, or the run is too long. -/
lemma soundResult_digit (h : g.Sound) (hsel : g.Selected) {d : Nat} (hd : d < 2) :
    SoundResult (g.digit d) := by
  rw [digit]
  by_cases hlong : maxWeight ≤ g.weight
  · rw [if_pos hlong]
    exact .inr ⟨g, rfl⟩
  · rw [if_neg hlong]
    obtain ⟨c, order, column, hshows⟩ := h.shows
    obtain ⟨hw, hw'⟩ := h.weight_range
    obtain ⟨hr, hr'⟩ := h.run_range
    refine .inl ⟨_, rfl, ⟨h.plan, ⟨c, order, column, hshows.congr rfl rfl rfl rfl⟩, h.group_le,
      ?_, ?_⟩, .inr hsel⟩
    · simp only
      omega
    · have hlow : 0 ≤ ((d : Int) + 1) * g.weight := Int.mul_nonneg (by omega) (by omega)
      have hhigh : ((d : Int) + 1) * g.weight ≤ 2 * g.weight :=
        Int.mul_le_mul_of_nonneg_right (by omega) (by omega)
      simp only
      omega

/-- The end of a run fills the column, or it does not fit. -/
lemma soundResult_flush (h : g.Sound) (hsel : g.Selected) :
    (∃ g', g.flush = .ok g' ∧ g'.Sound ∧ g'.Selected ∧ g'.plan = g.plan) ∨
      ∃ g', g.flush = .error (.dataError, g') := by
  obtain ⟨c, order, column, hshows⟩ := h.shows
  rcases Nat.lt_or_ge maxBlock (column.length + (g.run + 1).toNat) with hfull | hfit
  · exact .inr (hshows.flush_eq_error hfull)
  · obtain ⟨g', hflush, heq, hshows'⟩ := hshows.flush_eq_ok hfit
    have hw := h.weight_range
    refine .inl ⟨g', hflush, ⟨?_, ⟨c, order, _, hshows'⟩, ?_, ?_, ?_⟩, ?_, ?_⟩ <;> rw [heq]
    · exact h.plan
    · exact h.group_le
    · exact hw
    · simp only
      omega
    · exact hsel

/-- A literal fills the column, or it does not fit. -/
lemma soundResult_literal (h : g.Sound) (hsel : g.Selected) {n : Nat} (hn : n < g.plan.used.size) :
    SoundResult (g.literal n) := by
  obtain ⟨c, order, column, hshows⟩ := h.shows
  rcases Nat.lt_or_ge column.length maxBlock with hfit | hfull
  · have hlen := hshows.length_order
    obtain ⟨g', hliteral, heq, hshows'⟩ := hshows.literal_eq_ok
      (List.getElem?_eq_getElem (show n < (c :: order).length by omega)) hfit
    refine .inl ⟨g', hliteral, ⟨?_, ⟨_, _, _, hshows'⟩, ?_, ?_, ?_⟩, .inr ?_⟩ <;> rw [heq]
    · exact h.plan
    · exact h.group_le
    · exact h.weight_range
    · exact h.run_range
    · exact hsel
  · exact .inr (hshows.literal_eq_error n hfull)

end Sound

end Gathering

/-- The links of a linked block stay inside it. -/
lemma Linked.link_lt {column : Bytes} {cells : Array Cell} (h : Linked column column.length cells)
    {c : Cell} (hc : c ∈ cells) : c.link < column.length := by
  obtain ⟨i, hi, rfl⟩ := Array.getElem_of_mem hc
  rw [← nth_eq_getElem]
  exact (h.place_link (h.size_eq ▸ hi)).1

/-- A linked block is sound, from each of its cells. -/
lemma Linked.sound {column : Bytes} {cells : Array Cell} (h : Linked column column.length cells)
    (hn : column.length ≤ maxBlock) {o : Output} (hcells : o.cells = cells)
    (hpos : o.pos < column.length) : o.Sound where
  pos_lt := by rwa [hcells, h.size_eq]
  link_lt c hc := by
    rw [hcells] at hc ⊢
    rw [h.size_eq]
    exact h.link_lt hc
  size_le := by rwa [hcells, h.size_eq]

/-! ## Phases -/

namespace Phase

variable {g : Gathering} {retry : Gathering → Phase}

/-- A failure is sound. -/
lemma soundStep_fail (p : Phase) : SoundStep p.fail :=
  .inr (.inr ⟨rfl, p, rfl⟩)

/-- A complete block is sound, unless its row is outside of it. -/
lemma soundStep_endBlock (h : g.Sound) : SoundStep (endBlock retry g) := by
  obtain ⟨c, order, column, hshows⟩ := h.shows
  rw [endBlock, hshows.finish_eq]
  rcases Nat.lt_or_ge g.plan.origin.toNat column.length with horigin | horigin
  · obtain ⟨cells, hlinked, hready⟩ := link_eq_ready hshows.length_le horigin
    rw [if_neg (by omega), hready]
    have h₁ := (hlinked.place_link horigin).1
    exact .inr (.inl ⟨rfl, _, rfl, hlinked.sound hshows.length_le rfl (hlinked.place_link h₁).1⟩)
  · rw [if_pos horigin]
    exact soundStep_fail _

/-- Waiting for the next symbol. -/
lemma soundStep_awaitCode (place : Place) {r : Gathering.Result} (h : Gathering.SoundResult r) :
    SoundStep (awaitCode place retry r) := by
  rw [awaitCode]
  rcases h with ⟨g, rfl, hg, hsel⟩ | ⟨g, rfl⟩
  · rcases hg.soundResult_nextCode hsel with ⟨g', hnext, hg', hsel'⟩ | ⟨g', hnext⟩
    · obtain ⟨lengths, hadm, -, htable⟩ := hsel'.table_eq hg'.plan
      simp only [Except.bind, hnext]
      refine ⟨hg', hsel', ?_⟩
      rw [if_neg (by decide), htable]
      exact ⟨hadm.one_le_shortest, hadm.shortest_le_longest.trans hadm.longest_le_max⟩
    · simp only [Except.bind, hnext]
      exact .inr (.inr ⟨rfl, _, rfl⟩)
  · exact .inr (.inr ⟨rfl, _, rfl⟩)

/-- A symbol that is no digit leads to something sound. -/
lemma soundStep_acceptOther (h : g.Sound) (hsel : g.Selected) {sym : Nat}
    (hsym : 2 ≤ sym ∧ sym < g.plan.used.size + 2) : SoundStep (acceptOther retry sym g) := by
  rw [acceptOther]
  by_cases hend : sym = g.plan.endSymbol
  · rw [if_pos hend]
    exact soundStep_endBlock h
  · rw [if_neg hend]
    rw [Plan.endSymbol] at hend
    exact soundStep_awaitCode _ (h.soundResult_literal hsel (by omega))

/-- A symbol of the alphabet leads to something sound. -/
lemma soundStep_acceptSymbol (h : g.Sound) (hsel : g.Selected) (place : Place) {sym : Nat}
    (hsym : sym < g.plan.used.size + 2) : SoundStep (acceptSymbol place retry sym g) := by
  have hused := h.plan.used_pos
  rw [acceptSymbol]
  split_ifs with hplace hdigit hend hdigit
  · exact soundStep_awaitCode _ (h.soundResult_digit hsel hdigit)
  · rcases h.soundResult_flush hsel with ⟨g', hflush, hg', hsel', hplan⟩ | ⟨g', hflush⟩
    · simp only [hflush]
      exact soundStep_acceptOther hg' hsel' ⟨by omega, by rwa [hplan]⟩
    · simp only [hflush]
      exact .inr (.inr ⟨rfl, _, rfl⟩)
  · exact soundStep_endBlock h
  · exact soundStep_awaitCode _ (h.beginRun.soundResult_digit hsel hdigit)
  · rw [Plan.endSymbol] at hend
    exact soundStep_awaitCode _ (h.soundResult_literal hsel (by omega))

/-- More bits are only asked for while a code is not too long. -/
lemma length_le_of_incomplete {t : CodeTable} {n v : Nat} (h : t.lookup n v = .incomplete) :
    n ≤ maxCodeLength := by
  by_contra hlong
  rw [CodeTable.lookup, if_pos (by omega)] at h
  cases h

/-- A code leads to something sound, be it a symbol, the beginning of one, or neither. -/
lemma soundStep_acceptCode (h : g.Sound) (hsel : g.Selected) (place : Place) (more : Bool)
    {length value : Nat} (hlength : 1 ≤ length) (hvalue : value < 2 ^ length) :
    SoundStep (acceptCode place more length value g) := by
  obtain ⟨lengths, hadm, hlen, htable⟩ := hsel.table_eq h.plan
  rw [acceptCode]
  cases hlook : g.table.lookup length value with
  | symbol sym =>
    rw [htable] at hlook
    have hsym := CodeTable.lt_of_lookup_eq_symbol hlook
    exact soundStep_acceptSymbol h hsel place (by omega)
  | incomplete =>
    have hle := length_le_of_incomplete hlook
    exact ⟨h, hsel, by rw [if_pos rfl]; exact ⟨by omega, by omega, hvalue⟩⟩
  | invalid => exact soundStep_fail _
  | unfilled =>
    rw [htable] at hlook
    exact absurd hlook (CodeTable.lookup_ne_unfilled hadm length value)

/-- Ranks within an order select items of it. -/
lemma undoRanks_eq_some (order ranks : List Nat) (h : ∀ r ∈ ranks, r < order.length) :
    ∃ items, undoRanks order ranks = some items ∧ items.length = ranks.length ∧
      ∀ x ∈ items, x ∈ order := by
  induction ranks generalizing order with
  | nil => exact ⟨[], rfl, rfl, by simp⟩
  | cons r ranks ih =>
    have hr : r < order.length := h r List.mem_cons_self
    have hperm : (order[r] :: order.eraseIdx r).Perm order := List.getElem_cons_eraseIdx_perm hr
    obtain ⟨items, hitems, hlen, hmem⟩ := ih (order[r] :: order.eraseIdx r) fun x hx => by
      rw [hperm.length_eq]
      exact h x (List.mem_cons_of_mem _ hx)
    refine ⟨order[r] :: items, ?_, by simp [hlen], fun x hx => ?_⟩
    · rw [undoRanks, List.getElem?_eq_getElem hr]
      simp [hitems]
    · rcases List.mem_cons.1 hx with rfl | hx
      · exact List.getElem_mem hr
      · exact hperm.mem_iff.1 (hmem x hx)

/-- The selectors of a block select tables. -/
lemma soundStep_endSelectors {row : UInt32} {used : Array UInt8} {count : Nat} {ranks : Array Nat}
    (hrow : row.toNat ≤ maxOrigin) (hused : 0 < used.size ∧ used.size ≤ 256)
    (hcount : 2 ≤ count ∧ count ≤ 6) (hranks : ∀ r ∈ ranks, r < count)
    (hsize : ranks.size ≤ maxSelectors) : SoundStep (endSelectors row used count ranks) := by
  obtain ⟨items, hitems, hlen, hmem⟩ := undoRanks_eq_some (List.range count)
    ranks.toList fun r hr => by
      rw [List.length_range]
      exact hranks r (Array.mem_def.2 hr)
  rw [endSelectors, hitems]
  exact
    { origin_le := hrow
      used_pos := hused.1
      used_le := hused.2
      table := by simp
      tables_lt := Nat.lt_of_lt_of_le (by decide : 0 < 2) hcount.1
      count_le := hcount.2
      selector_lt := fun s hs => List.mem_range.1 (hmem s (by simpa using hs))
      selectors_le := by simpa [hlen] using hsize
      length_range := by simp
      lengths_lt := by simp }

/-- Another code length in range. -/
lemma range_push {lengths : Array Nat} (h : ∀ n ∈ lengths, 1 ≤ n ∧ n ≤ maxCodeLength) {length : Int}
    (hlength : 1 ≤ length ∧ length ≤ maxCodeLength) :
    ∀ n ∈ lengths.push length.toNat, 1 ≤ n ∧ n ≤ maxCodeLength := by
  intro n hn
  rcases Array.mem_push.1 hn with hn | rfl
  · exact h n hn
  · omega

/-- Code lengths in range make a table. -/
lemma admissible_toList {lengths : Array Nat} (h : ∀ n ∈ lengths, 1 ≤ n ∧ n ≤ maxCodeLength)
    (hpos : 0 < lengths.size) : CodeTable.Admissible lengths.toList where
  ne_nil := List.ne_nil_of_length_pos (by rwa [Array.length_toList])
  pos n hn := (h n (Array.mem_def.2 hn)).1
  le n hn := (h n (Array.mem_def.2 hn)).2

/-- A complete table is followed by the next one, or by the symbols. -/
lemma soundStep_endTable {d : Draft} (h : d.Sound) {lengths : Array Nat}
    (hrange : ∀ n ∈ lengths, 1 ≤ n ∧ n ≤ maxCodeLength) (hsize : lengths.size = d.used.size + 2) :
    SoundStep (endTable { d with lengths := lengths }) := by
  have hadm := admissible_toList hrange (by omega)
  have htables : ∀ t ∈ d.tables.push (.ofCode lengths.toList), ∃ ls, CodeTable.Admissible ls ∧
      ls.length = d.used.size + 2 ∧ t = .ofCode ls := by
    intro t ht
    rcases Array.mem_push.1 ht with ht | rfl
    · exact h.table t ht
    · exact ⟨lengths.toList, hadm, by rw [Array.length_toList, hsize], rfl⟩
  have hlt := h.tables_lt
  simp only [endTable]
  split_ifs with hmore
  · exact
      { h with
        table := htables
        tables_lt := hmore
        length_range := by simp
        lengths_lt := by simp }
  · rw [Array.size_push] at hmore
    have hplan :
        Plan.Sound ⟨d.origin, d.used, d.tables.push (.ofCode lengths.toList), d.selectors⟩ :=
      { origin_le := h.origin_le
        used_pos := h.used_pos
        used_le := h.used_le
        table := htables
        tables_le := by have := h.count_le; simp only [Array.size_push]; omega
        selector_lt := fun s hs => by
          have := h.selector_lt s hs
          simp only [Array.size_push]
          omega
        selectors_le := h.selectors_le }
    refine soundStep_awaitCode _ (.inl ⟨_, rfl, ⟨hplan, ?_, Nat.zero_le _, ?_, ?_⟩, .inl rfl⟩)
    · obtain ⟨c, order, horder⟩ := List.exists_cons_of_ne_nil (l := d.used.toList)
        (List.ne_nil_of_length_pos (by rw [Array.length_toList]; exact h.used_pos))
      exact ⟨c, order, [], horder ▸ Gathering.shows_init h.used_le⟩
    · show 1 ≤ 1 ∧ 1 ≤ 2 * maxWeight
      decide
    · show (-1 : Int) ≤ -1 ∧ (-1 : Int) + 1 ≤ 2 * 1
      decide

/-- A code length is checked before it is used. -/
lemma soundStep_checkLength (retry : Phase) {d : Draft} (h : d.Sound) (length : Int) :
    SoundStep (checkLength retry d length) := by
  rw [checkLength]
  split_ifs with hrange
  · exact soundStep_fail _
  · exact ⟨h, by omega, by omega⟩

/-- There are 16 bytes in each range. -/
lemma length_flatMap_bytesOfRange (rs : List UInt8) :
    (rs.flatMap bytesOfRange).length = 16 * rs.length := by
  induction rs with
  | nil => rfl
  | cons r rs ih =>
    rw [List.flatMap_cons, List.length_append, ih, bytesOfRange, List.length_map, List.length_range,
      List.length_cons]
    omega

/-- The ranges that occur are not too many. -/
lemma soundStep_endRanges {row : UInt32} (hrow : row.toNat ≤ maxOrigin) {found : List UInt8}
    (hfound : found.length ≤ 16) : SoundStep (endRanges row found) := by
  have hlen := length_flatMap_bytesOfRange found
  rw [endRanges]
  split
  · exact soundStep_fail _
  · rename_i b bs hbytes
    rw [hbytes] at hlen
    refine ⟨hrow, ?_⟩
    rw [List.length_nil, hlen]
    omega

/-- Some byte occurs, and they are not too many. -/
lemma soundStep_endMap (retry : Phase) {row : UInt32} (hrow : row.toNat ≤ maxOrigin)
    {found : List UInt8} (hfound : found.length ≤ 256) : SoundStep (endMap retry row found) := by
  rw [endMap]
  split_ifs with hempty
  · exact soundStep_fail _
  · refine ⟨hrow, ?_, by rwa [List.size_toArray]⟩
    rw [List.size_toArray]
    exact List.length_pos_of_ne_nil (by simpa using hempty)

/-- What is found grows by at most one item. -/
lemma length_found_le (p : Prop) [Decidable p] (found : List UInt8) (r : UInt8) :
    (if p then found ++ [r] else found).length ≤ found.length + 1 := by
  split_ifs <;> simp

/-- Another rank is kept only while there is use for it. -/
lemma sound_pushRank {count ones : Nat} (hones : ones < count) {ranks : Array Nat}
    (hranks : ∀ r ∈ ranks, r < count) (hsize : ranks.size ≤ maxSelectors) :
    (∀ r ∈ if ranks.size < maxSelectors then ranks.push (ones % 256) else ranks, r < count) ∧
      (if ranks.size < maxSelectors then ranks.push (ones % 256) else ranks).size ≤
        maxSelectors := by
  split_ifs with hmore
  · refine ⟨fun r hr => ?_, by rw [Array.size_push]; omega⟩
    rcases Array.mem_push.1 hr with hr | rfl
    · exact hranks r hr
    · exact (Nat.mod_le _ _).trans_lt hones
  · exact ⟨hranks, hsize⟩

/-! ## The fields of each phase -/

/-- A byte of the origin leads to something sound. -/
lemma soundStep_origin {left : Nat} {value : UInt32} (h : (origin left value).Sound) {v : Nat}
    (hv : v < 2 ^ 8) : SoundStep ((origin left value).accept v) := by
  obtain ⟨hleft, hvalue⟩ := h
  have hsmall : value.toNat < 2 ^ 16 :=
    hvalue.trans_le (Nat.pow_le_pow_right (by decide) (by omega))
  have happend := toNat_appendByte value (by omega) hv
  cases left with
  | zero =>
    simp only [accept]
    split_ifs with hlarge
    · exact soundStep_fail _
    · exact ⟨by omega, by decide⟩
  | succ left =>
    refine ⟨by omega, ?_⟩
    have hpow : 2 ^ (8 * (2 - left)) = 2 ^ 8 * 2 ^ (8 * (2 - (left + 1))) := by
      rw [← Nat.pow_add]
      congr 1
      omega
    rw [happend, hpow]
    omega

/-- A bit of the map of ranges leads to something sound. -/
lemma soundStep_rangeMap {row : UInt32} {todo found : List UInt8}
    (h : (rangeMap row todo found).Sound) (v : Nat) :
    SoundStep ((rangeMap row todo found).accept v) := by
  obtain ⟨hrow, hlen⟩ := h
  cases todo with
  | nil => exact soundStep_fail _
  | cons r todo =>
    have hfound := length_found_le (v = 1) found r
    rw [List.length_cons] at hlen
    simp only [accept]
    generalize (if v = 1 then found ++ [r] else found) = found' at *
    split_ifs
    · exact soundStep_endRanges hrow (by omega)
    · exact ⟨hrow, by omega⟩

/-- A bit of the map of a range leads to something sound. -/
lemma soundStep_byteMap {row : UInt32} {todo found : List UInt8}
    (h : (byteMap row todo found).Sound) (v : Nat) :
    SoundStep ((byteMap row todo found).accept v) := by
  obtain ⟨hrow, hlen⟩ := h
  cases todo with
  | nil => exact soundStep_fail _
  | cons b todo =>
    have hfound := length_found_le (v = 1) found b
    rw [List.length_cons] at hlen
    simp only [accept]
    generalize (if v = 1 then found ++ [b] else found) = found' at *
    split_ifs
    · exact soundStep_endMap _ hrow (by omega)
    · exact ⟨hrow, by omega⟩

/-- A bit of a selector leads to something sound. -/
lemma soundStep_selector {row : UInt32} {used : Array UInt8} {count left ones : Nat}
    {ranks : Array Nat} (h : (selector row used count left ones ranks).Sound) (v : Nat) :
    SoundStep ((selector row used count left ones ranks).accept v) := by
  obtain ⟨hrow, hpos, hle, htwo, hsix, hones, hranks, hsize⟩ := h
  obtain ⟨hranks', hsize'⟩ := sound_pushRank hones hranks hsize
  simp only [accept]
  generalize (if ranks.size < maxSelectors then ranks.push (ones % 256) else ranks) = ranks' at *
  split_ifs
  · exact soundStep_endSelectors hrow ⟨hpos, hle⟩ ⟨htwo, hsix⟩ hranks' hsize'
  · exact ⟨hrow, hpos, hle, htwo, hsix, by omega, hranks', hsize'⟩
  · exact soundStep_fail _
  · exact ⟨hrow, hpos, hle, htwo, hsix, by omega, hranks, hsize⟩

/-- A bit that changes a length leads to something sound. -/
lemma soundStep_lengthChanges {d : Draft} {length : Int} (h : (lengthChanges d length).Sound)
    (v : Nat) : SoundStep ((lengthChanges d length).accept v) := by
  obtain ⟨hd, hlength⟩ := h
  have hlt := hd.lengths_lt
  have hrange := range_push hd.length_range hlength
  simp only [accept]
  split_ifs with hzero hmore
  · exact ⟨{ hd with length_range := hrange, lengths_lt := hmore }, hlength⟩
  · rw [Array.size_push] at hmore
    exact soundStep_endTable hd hrange (by rw [Array.size_push]; omega)
  · exact ⟨hd, hlength⟩

/-- A bit of a code leads to something sound. -/
lemma soundStep_code {place : Place} {more : Bool} {length value : Nat}
    (h : (code place more length value g).Sound) {v : Nat}
    (hv : v < 2 ^ (code place more length value g).width) :
    SoundStep ((code place more length value g).accept v) := by
  obtain ⟨hg, hsel, hcode⟩ := h
  cases more with
  | false =>
    rw [if_neg (by decide)] at hcode
    have hwidth : (code place false length value g).width = length := by
      simp only [width]
      omega
    exact soundStep_acceptCode hg hsel place false hcode.1 (hwidth ▸ hv)
  | true =>
    rw [if_pos rfl] at hcode
    have hbit : v < 2 := hv
    have hpow : 2 ^ length = 2 * 2 ^ (length - 1) := by
      rw [← Nat.pow_succ', Nat.succ_eq_add_one, Nat.sub_add_cancel hcode.1]
    refine soundStep_acceptCode hg hsel place true hcode.1 ?_
    rw [if_pos rfl, hpow]
    omega

/-- **Every field of a sound phase leads to a sound phase, to the end, to a sound block, or to an
error in the data.** -/
theorem soundStep_accept {p : Phase} (hp : p.Sound) {v : Nat} (hv : v < 2 ^ p.width) :
    SoundStep (p.accept v) := by
  cases p with
  | mark =>
    simp only [accept]
    split_ifs
    · exact .inl ⟨rfl, rfl⟩
    · exact ⟨le_rfl, by decide⟩
    · exact soundStep_fail _
  | origin left value => exact soundStep_origin hp hv
  | rangeMap row todo found => exact soundStep_rangeMap hp v
  | byteMap row todo found => exact soundStep_byteMap hp v
  | tableCount row used =>
    obtain ⟨hrow, hpos, hle⟩ := hp
    simp only [accept]
    split_ifs with hcount
    · exact soundStep_fail _
    · exact ⟨hrow, hpos, hle, by omega, by omega⟩
  | selectorCount row used count =>
    obtain ⟨hrow, hpos, hle, hcount⟩ := hp
    simp only [accept]
    split_ifs
    · exact soundStep_fail _
    · exact ⟨hrow, hpos, hle, hcount.1, hcount.2, by omega, by simp, by simp⟩
  | selector row used count left ones ranks => exact soundStep_selector hp v
  | firstLength d => exact soundStep_checkLength _ hp v
  | lengthChanges d length => exact soundStep_lengthChanges hp v
  | lengthShrinks d length => exact soundStep_checkLength _ hp.1 _
  | code place more length value g => exact soundStep_code hp hv

end Phase

end Nsis.Bzip2
