import Mathlib.Data.List.Basic
import Mathlib.Order.Nat
import Mathlib.Tactic.Ring
import Nsis.Proofs.Bzip2.Gathered
import Nsis.Proofs.Bzip2.Header

/-!
# Reading the symbols of a block

Each symbol of a block is written in the code of its group. The digits of a run are collected until
another symbol follows, which then ends the block or adds a literal. In this way the symbols of a
column are turned into the column again.

## Main definitions

* `Nsis.Bzip2.Gathering.InGroup` — a gathering of a block of which some symbols were asked for.

## Main results

* `Nsis.Bzip2.Phase.leads_codeword` — the code of a symbol leads to that symbol.
* `Nsis.Bzip2.Phase.leads_run` — the digits of a run and the symbol after them.
* `Nsis.Bzip2.Phase.leads_column` — the symbols of a column lead to the end of a block that shows
  it.
-/

namespace Nsis.Bzip2

/-! ## Codes -/

namespace Phase

/-- Reading one more bit of a number. -/
lemma shiftRight_bit (v k : Nat) : 2 * (v >>> (k + 1)) + (v.testBit k).toNat = v >>> k := by
  rw [Nat.toNat_testBit, Nat.shiftRight_eq_div_pow, Nat.shiftRight_eq_div_pow, Nat.pow_succ,
    ← Nat.div_div_eq_div_mul]
  omega

/-- A code that stands for a symbol is accepted as this symbol. -/
lemma acceptCode_of_symbol {place : Place} {more : Bool} {length value sym : Nat} {g : Gathering}
    (h : g.table.lookup length value = .symbol sym) :
    acceptCode place more length value g =
      acceptSymbol place (.code place more length value) sym g := by
  rw [acceptCode, h]

/-- A code that is only the beginning of others waits for a further bit. -/
lemma acceptCode_of_incomplete {place : Place} {more : Bool} {length value : Nat} {g : Gathering}
    (h : g.table.lookup length value = .incomplete) :
    acceptCode place more length value g = .wait (.code place true (length + 1) value g) := by
  rw [acceptCode, h]

section Codes

variable {lengths : List Nat} (h : CodeTable.Admissible lengths)
  (hl : lengths.length ≤ maxAlphabet) {j n : Nat} (hj : lengths[j]? = some n) (place : Place)
  {g : Gathering} (hg : g.table = .ofCode lengths)

include h hl hj hg in
/-- A code is read on, bit by bit, up to its symbol. -/
lemma leads_codeRest {k : Nat} (hk : CodeTable.shortest lengths < n - k) :
    ∃ retry, Leads (.code place true (n - k) (CodeTable.codeValue lengths j n >>> (k + 1)) g)
      (bitsOf (k + 1) (CodeTable.codeValue lengths j n)) (acceptSymbol place retry j g) := by
  induction k with
  | zero =>
    refine ⟨.code place true n (CodeTable.codeValue lengths j n), .bit _ rfl ?_⟩
    have hlook := CodeTable.lookup_codeValue h hl hj
    rw [← hg] at hlook
    simp only [accept, if_true, shiftRight_bit]
    exact acceptCode_of_symbol hlook
  | succ k ih =>
    obtain ⟨retry, hrest⟩ := ih (by omega)
    have hnext : n - (k + 1) + 1 = n - k := by omega
    have hbit : Leads (.code place true (n - (k + 1))
        (CodeTable.codeValue lengths j n >>> (k + 1 + 1)) g)
        [(CodeTable.codeValue lengths j n).testBit (k + 1)]
        (.wait (.code place true (n - k) (CodeTable.codeValue lengths j n >>> (k + 1)) g)) := by
      refine .bit _ rfl ?_
      have hlook := CodeTable.lookup_shiftRight_codeValue h hj hk.le (show n - (k + 1) < n by omega)
      rw [show n - (n - (k + 1)) = k + 1 by omega, ← hg] at hlook
      simp only [accept, if_true, shiftRight_bit]
      rw [acceptCode_of_incomplete hlook, hnext]
    exact ⟨retry, hbit.append hrest⟩

include h hl hj hg in
/-- **The code of a symbol leads to that symbol.** -/
lemma leads_codeword (hkraft : CodeTable.Kraft lengths) :
    ∃ retry, Leads (.code place false g.table.minLength 0 g) (CodeTable.codeword lengths j)
      (acceptSymbol place retry j g) := by
  have hmem := List.mem_of_getElem? hj
  have hmin : g.table.minLength = CodeTable.shortest lengths := by
    rw [hg]
    rfl
  have h₁ := h.one_le_shortest
  have h₂ : CodeTable.shortest lengths ≤ n := CodeTable.shortest_le hmem
  have h₃ : n ≤ 20 := h.le n hmem
  have hvalue := CodeTable.codeValue_lt h hkraft hj
  have hwidth : (code place false (CodeTable.shortest lengths) 0 g).width =
      CodeTable.shortest lengths := by
    simp only [width]
    omega
  rw [hmin, CodeTable.codeword, hj]
  rcases Nat.eq_or_lt_of_le h₂ with heq | hlt
  · -- the shortest codes are read at once
    refine ⟨.code place false n (CodeTable.codeValue lengths j n),
      .field (by rw [hwidth, heq]) h₃ ?_⟩
    have hlook := CodeTable.lookup_codeValue h hl hj
    rw [← hg] at hlook
    rw [Nat.mod_eq_of_lt hvalue, heq]
    exact acceptCode_of_symbol hlook
  · obtain ⟨k, hk⟩ : ∃ k, n = CodeTable.shortest lengths + (k + 1) :=
      ⟨n - CodeTable.shortest lengths - 1, by omega⟩
    obtain ⟨retry, hrest⟩ := leads_codeRest h hl hj place hg (k := k) (by omega)
    refine ⟨retry, ?_⟩
    have hsplit := bitsOf_add (CodeTable.shortest lengths) (k + 1) (CodeTable.codeValue lengths j n)
    rw [← hk] at hsplit
    have hfirst : Leads (.code place false (CodeTable.shortest lengths) 0 g)
        (bitsOf (CodeTable.shortest lengths) (CodeTable.codeValue lengths j n >>> (k + 1)))
        (.wait (.code place true (n - k) (CodeTable.codeValue lengths j n >>> (k + 1)) g)) := by
      refine .field hwidth (by omega) ?_
      have hlook := CodeTable.lookup_shiftRight_codeValue h hj le_rfl hlt
      have hshift : CodeTable.codeValue lengths j n >>> (k + 1) <
          2 ^ CodeTable.shortest lengths := by
        rw [Nat.shiftRight_eq_div_pow, Nat.div_lt_iff_lt_mul (Nat.two_pow_pos _),
          ← Nat.pow_add, ← hk]
        exact hvalue
      rw [show n - CodeTable.shortest lengths = k + 1 by omega, ← hg] at hlook
      rw [Nat.mod_eq_of_lt hshift, show n - k = CodeTable.shortest lengths + 1 by omega]
      exact acceptCode_of_incomplete hlook
    simp only [hsplit]
    exact hfirst.append hrest

end Codes

end Phase

/-! ## Groups -/

namespace Gathering

/-- A gathering of a block of which `i` symbols were asked for: the last of them in the code of its
group. -/
structure InGroup (b : Block) (i : Nat) (g : Gathering) : Prop where
  plan_eq : g.plan = b.plan
  group_eq : g.group = (i + (groupSize - 1)) / groupSize
  left_eq : g.left = (groupSize - i % groupSize) % groupSize
  table_eq : 0 < i → g.table = .ofCode (codeAt b.codes b.selectors (i - 1))

/-- The first symbol is the first one of the first group. -/
lemma inGroup_init (b : Block) : InGroup b 0 (init b.plan) where
  plan_eq := rfl
  group_eq := rfl
  left_eq := rfl
  table_eq h := absurd h (Nat.lt_irrefl 0)

/-- What is done with a symbol does not change its group. -/
lemma InGroup.congr {b : Block} {i : Nat} {g g' : Gathering} (h : InGroup b i g)
    (hplan : g'.plan = g.plan) (hgroup : g'.group = g.group) (hleft : g'.left = g.left)
    (htable : g'.table = g.table) : InGroup b i g' where
  plan_eq := hplan.trans h.plan_eq
  group_eq := hgroup.trans h.group_eq
  left_eq := hleft.trans h.left_eq
  table_eq hi := htable.trans (h.table_eq hi)

/-- The symbol for the end is the one behind all others. -/
lemma InGroup.endSymbol_eq {b : Block} {i : Nat} {g : Gathering} (h : InGroup b i g) :
    g.plan.endSymbol = (usedBytes b.contents).length + 1 := by
  rw [h.plan_eq, Plan.endSymbol, Block.plan, List.size_toArray]

/-- **Another symbol can be asked for**, as long as there are some left. -/
lemma InGroup.nextCode {b : Block} {i : Nat} {g : Gathering} (h : InGroup b i g)
    (hi : i < (symbols b.contents).length) :
    ∃ g', g.nextCode = .ok g' ∧ InGroup b (i + 1) g' ∧
      g' = { g with table := g'.table, group := g'.group, left := g'.left } := by
  have hsize : groupSize = 50 := rfl
  by_cases hfirst : i % groupSize = 0
  · -- a new group
    obtain ⟨s, hs, hcode⟩ := b.selector_codeAt hi
    have hgroup : g.group = i / groupSize := by
      rw [h.group_eq, hsize] at *
      omega
    have hleft : g.left = 0 := by
      rw [h.left_eq, hfirst, hsize]
    have hselector : g.plan.selectors[g.group]? = some s := by
      rw [h.plan_eq, hgroup, Block.plan, List.getElem?_toArray, hs]
    have htable : g.plan.tables[s]? = some (.ofCode (codeAt b.codes b.selectors i)) := by
      rw [h.plan_eq, Block.plan, List.getElem?_toArray, List.getElem?_map, hcode, Option.map_some]
    refine ⟨_, by rw [Gathering.nextCode, if_pos hleft, hselector]; simp only [htable]; rfl,
      ?_, rfl⟩
    refine ⟨h.plan_eq, ?_, ?_, fun _ => rfl⟩
    · simp only [hgroup, hsize] at *
      omega
    · simp only [hsize] at *
      omega
  · have hleft : g.left ≠ 0 := by
      rw [h.left_eq, hsize] at *
      omega
    refine ⟨_, by rw [Gathering.nextCode, if_neg hleft], ?_, rfl⟩
    refine ⟨h.plan_eq, ?_, ?_, fun _ => ?_⟩
    · simp only [h.group_eq, hsize] at *
      omega
    · simp only [h.left_eq, hsize] at *
      omega
    · have hsame : (i + 1 - 1) / groupSize = (i - 1) / groupSize := by
        simp only [hsize] at *
        omega
      simp only [h.table_eq (Nat.pos_of_ne_zero fun h₀ => hfirst (by rw [h₀]; rfl)), codeAt, hsame]

end Gathering

namespace Phase

open Gathering

variable {b : Block} {i : Nat} {g : Gathering} {order column : Bytes}

/-- The code of a symbol in its group leads to that symbol. -/
lemma leads_symbol (h : InGroup b (i + 1) g) (hi : i < (symbols b.contents).length) {s : Nat}
    (hs : s < (usedBytes b.contents).length + 2) (place : Place) :
    ∃ retry, Leads (.code place false g.table.minLength 0 g)
      (symbolBits b.codes b.selectors i [s]) (acceptSymbol place retry s g) := by
  obtain ⟨t, -, hcode⟩ := b.selector_codeAt hi
  have hmem := List.mem_of_getElem? hcode
  have hlen := b.length_code _ hmem
  have hused := length_usedBytes_le b.contents
  rw [symbolBits, symbolBits, List.append_nil]
  refine leads_codeword (b.admissible hmem) ?_ (List.getElem?_eq_getElem (by omega)) place
    (h.table_eq (Nat.succ_pos i)) (b.code_kraft _ hmem)
  rw [hlen, maxAlphabet]
  omega

/-- After a symbol that is not the last one, the next one is waited for. -/
lemma awaitCode_eq {g : Gathering} (h : InGroup b i g) (hi : i < (symbols b.contents).length)
    (hshows : g.Shows order column) (place : Place) (retry : Gathering → Phase) :
    ∃ g', awaitCode place retry (.ok g) = .wait (.code place false g'.table.minLength 0 g') ∧
      InGroup b (i + 1) g' ∧ g'.Shows order column ∧ g'.run = g.run ∧ g'.weight = g.weight := by
  obtain ⟨g', hnext, hgroup, heq⟩ := h.nextCode hi
  refine ⟨g', ?_, hgroup, ?_, ?_, ?_⟩
  · rw [awaitCode]
    simp only [Except.bind, hnext]
  · exact hshows.congr (by rw [heq]) (by rw [heq]) (by rw [heq]) (by rw [heq])
  · rw [heq]
  · rw [heq]

/-! ## Runs -/

/-- A digit of a run. -/
lemma digit_eq {d : Nat} (hw : g.weight < maxWeight) :
    g.digit d = .ok { g with run := g.run + (d + 1) * g.weight, weight := 2 * g.weight } := by
  rw [digit, if_neg (by omega)]

/-- A digit, of the run so far or of a new one. -/
lemma leads_digit {place : Place} {g₀ : Gathering}
    (hg₀ : g₀ = if place = .afterDigit then g else g.beginRun) {d : Nat} (hd : d < 2)
    (h : InGroup b (i + 1) g) (hshows : g.Shows order column)
    (hi : i + 1 < (symbols b.contents).length) (hweight : g₀.weight < maxWeight) :
    ∃ g', Leads (.code place false g.table.minLength 0 g) (symbolBits b.codes b.selectors i [d])
        (.wait (.code .afterDigit false g'.table.minLength 0 g')) ∧
      InGroup b (i + 1 + 1) g' ∧ g'.Shows order column ∧
      g'.run = g₀.run + (d + 1) * g₀.weight ∧ g'.weight = 2 * g₀.weight := by
  have hused : 0 < (usedBytes b.contents).length :=
    List.length_pos_of_ne_nil (usedBytes_ne_nil b.contents_ne)
  have hend := h.endSymbol_eq
  obtain ⟨retry, hlead⟩ := leads_symbol h (s := d) (by omega) (by omega) place
  have haccept : acceptSymbol place retry d g = awaitCode .afterDigit retry (g₀.digit d) := by
    rw [acceptSymbol, hg₀]
    split_ifs with hplace hlast
    · rfl
    · omega
    · rfl
  have hsame : g₀.plan = g.plan ∧ g₀.group = g.group ∧ g₀.left = g.left ∧ g₀.table = g.table ∧
      g₀.windows = g.windows ∧ g₀.counts = g.counts ∧ g₀.cells = g.cells := by
    rw [hg₀]
    split_ifs <;> exact ⟨rfl, rfl, rfl, rfl, rfl, rfl, rfl⟩
  obtain ⟨hplan, hgroup, hleft, htable, hwindows, hcounts, hcells⟩ := hsame
  obtain ⟨g', hwait, hgroup', hshows', hrun', hweight'⟩ := awaitCode_eq
    (g := { g₀ with run := g₀.run + (d + 1) * g₀.weight, weight := 2 * g₀.weight })
    (h.congr hplan hgroup hleft htable) hi (hshows.congr hplan hwindows hcounts hcells)
    .afterDigit retry
  rw [haccept, digit_eq hweight, hwait] at hlead
  exact ⟨g', hlead, hgroup', hshows', hrun', hweight'⟩

/-- The end of a run: its last digits, and a symbol that is no digit. -/
lemma leads_digits {c : UInt8} {s : Nat} (hs : 2 ≤ s ∧ s < (usedBytes b.contents).length + 2)
    {ds : List Nat} (hds : ∀ d ∈ ds, d < 2) (h : InGroup b (i + 1) g)
    (hshows : g.Shows (c :: order) column) (hi : i + ds.length < (symbols b.contents).length)
    (hweight : g.weight * 2 ^ ds.length ≤ maxWeight) {z : Nat}
    (hz : g.run + 1 + g.weight * digitsValue ds = z) (hfit : column.length + z ≤ maxBlock) :
    ∃ retry g', Leads (.code .afterDigit false g.table.minLength 0 g)
        (symbolBits b.codes b.selectors i (ds ++ [s])) (acceptOther retry s g') ∧
      InGroup b (i + ds.length + 1) g' ∧
      g'.Shows (c :: order) (column ++ List.replicate z c) := by
  induction ds generalizing i g with
  | nil =>
    obtain ⟨retry, hlead⟩ := leads_symbol h hi hs.2 .afterDigit
    have hrun : (g.run + 1).toNat = z := by
      simp only [digitsValue] at hz
      omega
    obtain ⟨g', hflush, heq, hshows'⟩ := hshows.flush_eq_ok (by rw [hrun]; exact hfit)
    rw [acceptSymbol, if_pos rfl, if_neg (by omega), hflush] at hlead
    rw [hrun] at hshows'
    exact ⟨retry, g', hlead, h.congr (by rw [heq]) (by rw [heq]) (by rw [heq]) (by rw [heq]),
      hshows'⟩
  | cons d ds ih =>
    rw [List.length_cons] at hi hweight
    have hpow : g.weight * 2 * 2 ^ ds.length = g.weight * 2 ^ (ds.length + 1) := by ring
    have hless : g.weight < maxWeight := by
      have := Nat.le_mul_of_pos_right (g.weight * 2) (Nat.two_pow_pos ds.length)
      simp only [maxWeight] at *
      omega
    obtain ⟨g₁, hlead, hgroup, hshows₁, hrun₁, hweight₁⟩ := leads_digit
      (if_pos (show Place.afterDigit = .afterDigit from rfl)).symm (hds d List.mem_cons_self) h
      hshows (by omega) hless
    obtain ⟨retry, g', hrest, hgroup', hshows'⟩ := ih
      (fun x hx => hds x (List.mem_cons_of_mem _ hx)) hgroup hshows₁ (by omega)
      (by rw [hweight₁, Nat.mul_comm 2, hpow]; exact hweight)
      (by
        rw [hrun₁, hweight₁, ← hz, digitsValue]
        push_cast
        ring)
    refine ⟨retry, g', ?_, ?_, hshows'⟩
    · rw [show (d :: ds) ++ [s] = [d] ++ (ds ++ [s]) from rfl, symbolBits_append]
      exact hlead.append hrest
    · rw [List.length_cons, ← Nat.add_assoc, Nat.add_right_comm i]
      exact hgroup'

/-- **A run and the symbol after it**: the copies of the first byte are added to the column. -/
lemma leads_run {c : UInt8} {s : Nat} (hs : 2 ≤ s ∧ s < (usedBytes b.contents).length + 2)
    {place : Place} (hplace : place ≠ .afterDigit) (h : InGroup b (i + 1) g)
    (hshows : g.Shows (c :: order) column) {z : Nat}
    (hi : i + (runDigits z).length < (symbols b.contents).length)
    (hfit : column.length + z ≤ maxBlock) :
    ∃ retry g', Leads (.code place false g.table.minLength 0 g)
        (symbolBits b.codes b.selectors i (runDigits z ++ [s])) (acceptOther retry s g') ∧
      InGroup b (i + (runDigits z).length + 1) g' ∧
      g'.Shows (c :: order) (column ++ List.replicate z c) := by
  have hdigits := fun d hd => lt_two_of_mem_runDigits (n := z) (d := d) hd
  have hvalue := value_runDigits z
  have hpow := two_pow_length_le (runDigits z)
  cases hz : runDigits z with
  | nil =>
    rw [hz] at hi hvalue
    obtain rfl : z = 0 := hvalue.symm
    obtain ⟨retry, hlead⟩ := leads_symbol h hi hs.2 place
    have hother : acceptSymbol place retry s g = acceptOther retry s g := by
      rw [acceptSymbol, if_neg hplace, acceptOther, if_neg (show ¬ s < 2 by omega)]
    rw [hother] at hlead
    exact ⟨retry, g, hlead, h, by simpa using hshows⟩
  | cons d ds =>
    rw [hz] at hi hdigits hvalue hpow
    rw [List.length_cons] at hi hpow
    obtain ⟨g₁, hlead, hgroup, hshows₁, hrun₁, hweight₁⟩ := leads_digit (if_neg hplace).symm
      (hdigits d List.mem_cons_self) h hshows (by omega) (show 1 < maxWeight by decide)
    have hone : g₁.weight = 2 := hweight₁
    have hminus : g₁.run = d := by
      rw [hrun₁]
      simp only [beginRun]
      omega
    obtain ⟨retry, g', hrest, hgroup', hshows'⟩ := leads_digits hs
      (fun x hx => hdigits x (List.mem_cons_of_mem _ hx)) hgroup hshows₁ (by omega) (z := z)
      (by
        rw [hvalue] at hpow
        rw [hone, Nat.mul_comm, ← Nat.pow_succ]
        simp only [maxWeight, maxBlock] at hfit ⊢
        omega)
      (by
        rw [hminus, hone, ← hvalue, digitsValue]
        push_cast
        ring)
      hfit
    refine ⟨retry, g', ?_, ?_, hshows'⟩
    · rw [show (d :: ds) ++ [s] = [d] ++ (ds ++ [s]) from rfl, symbolBits_append]
      exact hlead.append hrest
    · rw [List.length_cons, ← Nat.add_assoc, Nat.add_right_comm i]
      exact hgroup'

/-- A run and the literal after it: the literal's byte becomes the first one. -/
lemma leads_literal {c x : UInt8} {k : Nat} (hx : (c :: order)[k + 1]? = some x) {place : Place}
    (hplace : place ≠ .afterDigit) (h : InGroup b (i + 1) g) (hshows : g.Shows (c :: order) column)
    {z : Nat} (hi : i + (runDigits z).length + 1 < (symbols b.contents).length)
    (hfit : column.length + z < maxBlock) :
    ∃ g', Leads (.code place false g.table.minLength 0 g)
        (symbolBits b.codes b.selectors i (runDigits z ++ [k + 2]))
        (.wait (.code .afterLiteral false g'.table.minLength 0 g')) ∧
      InGroup b (i + (runDigits z).length + 1 + 1) g' ∧
      g'.Shows (x :: (c :: order).eraseIdx (k + 1)) (column ++ List.replicate z c ++ [x]) := by
  have hlt : k + 1 < (usedBytes b.contents).length := by
    have hsize := hshows.length_order
    rw [h.plan_eq, Block.plan, List.size_toArray] at hsize
    rw [← hsize]
    exact (List.getElem?_eq_some_iff.1 hx).1
  obtain ⟨retry, g₁, hlead, hgroup₁, hshows₁⟩ := leads_run (s := k + 2) ⟨by omega, by omega⟩
    hplace h hshows (z := z) (by omega) (by omega)
  obtain ⟨g₂, hliteral, heq, hshows₂⟩ := hshows₁.literal_eq_ok hx
    (by rw [List.length_append, List.length_replicate]; omega)
  have hlast : k + 2 ≠ g₁.plan.endSymbol := by
    rw [hgroup₁.endSymbol_eq]
    omega
  obtain ⟨g', hwait, hgroup', hshows', -, -⟩ := awaitCode_eq
    (hgroup₁.congr (by rw [heq]) (by rw [heq]) (by rw [heq]) (by rw [heq])) hi hshows₂
    .afterLiteral retry
  rw [acceptOther, if_neg hlast, show k + 2 - 1 = k + 1 from rfl, hliteral, hwait] at hlead
  exact ⟨g', hlead, hgroup', hshows'⟩

/-! ## Columns -/

/-- **The symbols of a column lead to the end of a block that shows it.**

**Proof sketch.** Induction on the bytes of the column. A byte that is the first one of the order
prolongs the run; any other byte ends it with a literal, and becomes the first one. The end of the
block ends the last run. -/
lemma leads_column {bytes : Bytes} {c : UInt8} (hbytes : ∀ x ∈ bytes, x ∈ c :: order)
    {place : Place} (hplace : place ≠ .afterDigit) (h : InGroup b (i + 1) g)
    (hshows : g.Shows (c :: order) column) {zeros : Nat}
    (hi : i + (symbolsFor ((usedBytes b.contents).length + 1) zeros
      (moveToFront (c :: order) bytes)).length ≤ (symbols b.contents).length)
    (hfit : column.length + zeros + bytes.length ≤ maxBlock) :
    ∃ retry g' order', Leads (.code place false g.table.minLength 0 g)
        (symbolBits b.codes b.selectors i (symbolsFor ((usedBytes b.contents).length + 1) zeros
          (moveToFront (c :: order) bytes)))
        (endBlock retry g') ∧
      g'.plan = b.plan ∧ g'.Shows order' (column ++ List.replicate zeros c ++ bytes) := by
  induction bytes generalizing i g order column c place zeros with
  | nil =>
    have hused : 0 < (usedBytes b.contents).length :=
      List.length_pos_of_ne_nil (usedBytes_ne_nil b.contents_ne)
    rw [moveToFront, symbolsFor, List.length_append, List.length_singleton] at hi
    obtain ⟨retry, g', hlead, hgroup, hshows'⟩ := leads_run
      (s := (usedBytes b.contents).length + 1) ⟨by omega, by omega⟩ hplace h hshows (z := zeros)
      (by omega) hfit
    rw [acceptOther, if_pos hgroup.endSymbol_eq.symm] at hlead
    exact ⟨retry, g', c :: order, hlead, hgroup.plan_eq, by rwa [List.append_nil]⟩
  | cons x bytes ih =>
    have hrest : ∀ y ∈ bytes, y ∈ c :: order := fun y hy => hbytes y (List.mem_cons_of_mem _ hy)
    rw [List.length_cons] at hfit
    by_cases hx : x = c
    · -- the run gets longer
      subst hx
      rw [moveToFront, List.idxOf_cons_self, List.erase_cons_head, symbolsFor] at hi ⊢
      obtain ⟨retry, g', order', hlead, hplan, hshows'⟩ := ih hrest hplace h hshows hi (by omega)
      refine ⟨retry, g', order', hlead, hplan, ?_⟩
      rwa [List.replicate_succ', ← List.append_assoc, List.append_assoc, List.singleton_append]
        at hshows'
    · -- the run ends with a literal
      have hmem : x ∈ c :: order := hbytes x List.mem_cons_self
      obtain ⟨k, hk⟩ : ∃ k, (c :: order).idxOf x = k + 1 :=
        ⟨order.idxOf x, List.idxOf_cons_ne order (Ne.symm hx)⟩
      have hget : (c :: order)[k + 1]? = some x := hk ▸ List.getElem?_idxOf hmem
      have herase : (c :: order).eraseIdx (k + 1) = (c :: order).erase x := by
        rw [← hk, List.eraseIdx_idxOf_eq_erase]
      have hmore :=
        List.length_pos_of_ne_nil (symbolsFor_ne_nil ((usedBytes b.contents).length + 1) 0
          (moveToFront (x :: (c :: order).erase x) bytes))
      rw [moveToFront, hk, symbolsFor] at hi ⊢
      rw [List.length_append, List.length_cons] at hi
      obtain ⟨g₁, hlead, hgroup₁, hshows₁⟩ := leads_literal hget hplace h hshows (z := zeros)
        (by omega) (by omega)
      rw [herase] at hshows₁
      have hi₁ : i + (runDigits zeros).length + 1 +
          (symbolsFor ((usedBytes b.contents).length + 1) 0
            (moveToFront (x :: (c :: order).erase x) bytes)).length ≤
          (symbols b.contents).length := by
        omega
      obtain ⟨retry, g', order', hlead', hplan, hshows'⟩ := ih
        (fun y hy => (List.perm_cons_erase hmem).mem_iff.1 (hrest y hy))
        (show Place.afterLiteral ≠ .afterDigit by decide) hgroup₁ hshows₁ hi₁
        (by simp only [List.length_append, List.length_replicate, List.length_singleton]; omega)
      refine ⟨retry, g', order', ?_, hplan, ?_⟩
      · rw [← List.singleton_append, ← List.append_assoc, symbolBits_append, List.length_append,
          List.length_singleton]
        exact hlead.append hlead'
      · rwa [List.replicate_zero, List.append_nil, List.append_assoc _ [x], List.singleton_append]
          at hshows'

end Phase

end Nsis.Bzip2
