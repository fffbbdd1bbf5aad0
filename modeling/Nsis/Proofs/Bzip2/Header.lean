import Mathlib.Data.List.Basic
import Mathlib.Tactic.Ring
import Nsis.Proofs.Bzip2.Format

/-!
# Reading the head of a block

Reading takes one bit field after the other from the input. What comes of the bits in the head of a
block is put together from what comes of its parts: the row, the map of the bytes, the selectors and
the code lengths.

## Main definitions

* `Nsis.Bzip2.Phase.Leads` — what reading some bits leads to.

## Main results

* `Nsis.Bzip2.Phase.Leads.append` — reading some bits and then others.
* `Nsis.Bzip2.Phase.Leads.run_eq` — what becomes of a reader whose input begins with the bits.
* `Nsis.Bzip2.Phase.leads_map`, `leads_selectors`, `leads_tables` — the parts of the head.
* `Nsis.Bzip2.Phase.leads_head` — the head of a block leads to its first symbol.
-/

namespace Nsis.Bzip2.Phase

/-! ## Reading bits -/

/-- Reading exactly these bits, field by field, leads from a phase to a step. -/
inductive Leads : Phase → List Bool → Step → Prop
  | last {p : Phase} {bits : List Bool} {s : Step} (hwidth : bits.length = p.width)
      (hle : bits.length ≤ 20) (h : p.accept (ofBits bits) = s) : Leads p bits s
  | more {p q : Phase} {field bits : List Bool} {s : Step} (hwidth : field.length = p.width)
      (hle : field.length ≤ 20) (h : p.accept (ofBits field) = .wait q) (hrest : Leads q bits s) :
      Leads p (field ++ bits) s

namespace Leads

/-- Reading some bits and then others. -/
lemma append {p q : Phase} {xs ys : List Bool} {s : Step} (hx : Leads p xs (.wait q))
    (hy : Leads q ys s) : Leads p (xs ++ ys) s := by
  generalize ht : Step.wait q = t at hx
  induction hx with
  | last hwidth hle h =>
    subst ht
    exact .more hwidth hle h hy
  | more hwidth hle h hrest ih =>
    rw [List.append_assoc]
    exact .more hwidth hle h (ih ht)

/-- A field of a given value. -/
lemma field {p : Phase} {n v : Nat} {s : Step} (hn : p.width = n) (hle : n ≤ 20)
    (h : p.accept (v % 2 ^ n) = s) : Leads p (bitsOf n v) s := by
  refine .last ?_ ?_ ?_
  · rw [length_bitsOf, hn]
  · rwa [length_bitsOf]
  · rwa [ofBits_bitsOf]

/-- A single bit. -/
lemma bit {p : Phase} {s : Step} (b : Bool) (hp : p.width = 1) (h : p.accept b.toNat = s) :
    Leads p [b] s := by
  refine .last hp.symm (by simp) ?_
  rwa [ofBits, ofBits, List.length_nil, Nat.pow_zero, Nat.mul_one, Nat.add_zero]

/-- **Reading from the queue**: the bits are taken from its front. -/
lemma run_eq {p : Phase} {bits rest : List Bool} {s : Step} (h : Leads p bits s) {r : BitReader}
    (hr : r.live ≤ 27) (hq : r.queue = bits ++ rest) :
    ∃ r', r'.queue = rest ∧ r'.live ≤ 27 ∧
      p.run r = match s with
        | .wait q => q.run r'
        | .stop st m => .stopped st m r' := by
  induction h generalizing r with
  | last hwidth hle h =>
    obtain ⟨r', hread, hq', hl⟩ := BitReader.read_of_queue hr hle hq
    refine ⟨r', hq', hl, ?_⟩
    rw [hwidth] at hread
    rename_i s
    cases s with
    | wait q => exact run_of_wait hread h
    | stop st m => exact run_of_stop hread h
  | more hwidth hle h hrest ih =>
    rw [List.append_assoc] at hq
    obtain ⟨r₁, hread, hq₁, hl₁⟩ := BitReader.read_of_queue hr hle hq
    obtain ⟨r', hq', hl, hrun⟩ := ih hl₁ hq₁
    refine ⟨r', hq', hl, ?_⟩
    rw [hwidth] at hread
    rw [run_of_wait hread h, hrun]

end Leads

/-! ## The row and the map -/

/-- The mark of a block leads to its origin. -/
lemma leads_blockMark : Leads mark (bitsOf 8 blockMark) (.wait (.origin 2 0)) :=
  .field rfl (by decide) rfl

/-- The mark of the end ends the stream. -/
lemma leads_endMark : Leads mark (bitsOf 8 endMark) (.stop .streamEnd .idle) :=
  .field rfl (by decide) rfl

/-- A byte of the origin is put behind those before it. -/
lemma leads_byte (left : Nat) (value : UInt32) (c : Nat) :
    Leads (.origin (left + 1) value) (bitsOf 8 c)
      (.wait (.origin left ((value <<< 8) ||| UInt32.ofNat (c % 2 ^ 8)))) :=
  .field rfl (by decide) rfl

/-- The row is read byte by byte. -/
lemma leads_origin {v : Nat} (hv : v ≤ maxOrigin) :
    Leads (.origin 2 0) (bitsOf 24 v) (.wait (.rangeMap (UInt32.ofNat v) ranges [])) := by
  have hmax : maxOrigin = 900010 := rfl
  have hbits : bitsOf 24 v = bitsOf 8 (v >>> 16) ++ (bitsOf 8 (v >>> 8) ++ bitsOf 8 v) := by
    rw [← bitsOf_add 8 8 v, ← bitsOf_add 8 16 v]
  have hrow : (((((0 : UInt32) <<< 8 ||| UInt32.ofNat ((v >>> 16) % 2 ^ 8)) <<< 8) |||
      UInt32.ofNat ((v >>> 8) % 2 ^ 8)) <<< 8) ||| UInt32.ofNat (v % 2 ^ 8) = UInt32.ofNat v := by
    have hmod := fun n => Nat.mod_lt n (show 0 < 2 ^ 8 by decide)
    have h₁ := toNat_appendByte 0 (by decide) (hmod (v >>> 16))
    have h₂ :=
      toNat_appendByte _ (by rw [h₁]; have := hmod (v >>> 16); simp; omega) (hmod (v >>> 8))
    have h₃ := toNat_appendByte _ (by
      rw [h₂, h₁]
      have := hmod (v >>> 16)
      have := hmod (v >>> 8)
      simp
      omega) (hmod v)
    apply UInt32.toNat_inj.1
    rw [h₃, h₂, h₁, UInt32.toNat_ofNat']
    simp only [Nat.shiftRight_eq_div_pow, UInt32.toNat_zero]
    omega
  rw [hbits]
  refine (leads_byte 1 0 _).append ((leads_byte 0 _ _).append (.field rfl (by decide) ?_))
  simp only [accept, hrow]
  rw [if_neg]
  · rfl
  · rw [UInt32.toNat_ofNat']
    omega

/-- Asking of one item after the other whether it is there. -/
lemma leads_sieve (ask : (todo found : List UInt8) → Phase) (answer : List UInt8 → Step)
    (hwidth : ∀ todo found, (ask todo found).width = 1)
    (haccept : ∀ r todo found v, (ask (r :: todo) found).accept v =
      if todo.isEmpty then answer (if v = 1 then found ++ [r] else found)
      else .wait (ask todo (if v = 1 then found ++ [r] else found)))
    (there : UInt8 → Bool) (todo found : List UInt8) (htodo : todo ≠ []) :
    Leads (ask todo found) (todo.map there) (answer (found ++ todo.filter there)) := by
  induction todo generalizing found with
  | nil => exact absurd rfl htodo
  | cons r todo ih =>
    have hfound : (if (there r).toNat = 1 then found ++ [r] else found) ++ todo.filter there =
        found ++ (r :: todo).filter there := by
      cases h : there r <;> simp [h]
    rw [← hfound, List.map_cons, ← List.singleton_append]
    cases todo with
    | nil =>
      rw [List.map_nil, List.append_nil, List.filter_nil, List.append_nil]
      exact .bit _ (hwidth _ _) (haccept _ _ _ _)
    | cons r' todo =>
      have hbit : Leads (ask (r :: r' :: todo) found) [there r]
          (.wait (ask (r' :: todo) (if (there r).toNat = 1 then found ++ [r] else found))) :=
        .bit _ (hwidth _ _) (haccept _ _ _ _)
      exact hbit.append (ih _ (by simp))

/-- The ranges consist of all bytes. -/
lemma ranges_flatMap : ranges.flatMap bytesOfRange = (List.range 256).map UInt8.ofNat := by
  decide +kernel

/-- A range that does not occur has no bytes that do. -/
lemma filter_flatMap_filter (contents : Bytes) (rs : List UInt8) :
    ((rs.filter (occurs contents)).flatMap bytesOfRange).filter (· ∈ contents) =
      (rs.flatMap bytesOfRange).filter (· ∈ contents) := by
  induction rs with
  | nil => rfl
  | cons r rs ih =>
    by_cases h : occurs contents r = true
    · rw [List.filter_cons_of_pos h, List.flatMap_cons, List.flatMap_cons, List.filter_append,
        List.filter_append, ih]
    · have hnone : (bytesOfRange r).filter (· ∈ contents) = [] := by
        rw [List.filter_eq_nil_iff]
        intro b hb hmem
        exact h (List.any_eq_true.2 ⟨b, hb, hmem⟩)
      rw [List.filter_cons_of_neg h, List.flatMap_cons, List.filter_append, hnone, ih,
        List.nil_append]

/-- **The map of the bytes**: the bytes that occur are found. -/
lemma leads_map {contents : Bytes} (h : contents ≠ []) (row : UInt32) :
    Leads (.rangeMap row ranges []) (mapBits contents)
      (.wait (.tableCount row (usedBytes contents).toArray)) := by
  have hfound : ((ranges.filter (occurs contents)).flatMap bytesOfRange).filter (· ∈ contents) =
      usedBytes contents := by
    rw [filter_flatMap_filter, ranges_flatMap, usedBytes]
  have hused := usedBytes_ne_nil h
  have hsome : (ranges.filter (occurs contents)).flatMap bytesOfRange ≠ [] := by
    intro hnil
    rw [hnil] at hfound
    exact hused hfound.symm
  have hranges := leads_sieve (.rangeMap row) (endRanges row) (fun _ _ => rfl) (fun _ _ _ _ => rfl)
    (occurs contents) ranges [] (by decide)
  have hbytes := leads_sieve (.byteMap row) (endMap (.byteMap row [] []) row) (fun _ _ => rfl)
    (fun _ _ _ _ => rfl) (fun b => decide (b ∈ contents)) _ [] hsome
  rw [List.nil_append, endRanges] at hranges
  rw [List.nil_append, hfound, endMap, if_neg (by simpa using hused)] at hbytes
  rw [mapBits]
  cases htodo : (ranges.filter (occurs contents)).flatMap bytesOfRange with
  | nil => exact absurd htodo hsome
  | cons b bs =>
    rw [htodo] at hranges hbytes
    exact hranges.append hbytes

/-! ## The selectors -/

/-- The numbers of tables and of selectors. -/
lemma leads_counts (row : UInt32) (used : Array UInt8) {count n : Nat}
    (hcount : 2 ≤ count ∧ count ≤ 6) (hn : 1 ≤ n ∧ n ≤ 32767) :
    Leads (.tableCount row used) (bitsOf 3 count ++ bitsOf 15 n)
      (.wait (.selector row used count n 0 #[])) := by
  have htables : Leads (.tableCount row used) (bitsOf 3 count)
      (.wait (.selectorCount row used count)) := by
    refine .field rfl (by decide) ?_
    rw [Nat.mod_eq_of_lt (by omega), accept, if_neg (by omega)]
  refine htables.append (.field rfl (by decide) ?_)
  rw [Nat.mod_eq_of_lt (by omega), accept, if_neg (by omega)]

/-- The ones of a selector's rank. -/
lemma leads_unary (row : UInt32) (used : Array UInt8) {count : Nat} (left : Nat) {ones r : Nat}
    (ranks : Array Nat) (h : ones + r < count) :
    Leads (.selector row used count left ones ranks) (unary r)
      ((selector row used count left (ones + r) ranks).accept 0) := by
  induction r generalizing ones with
  | zero => exact .bit false rfl rfl
  | succ r ih =>
    have hone : Leads (.selector row used count left ones ranks) [true]
        (.wait (.selector row used count left (ones + 1) ranks)) := by
      refine .bit true rfl ?_
      rw [accept, if_neg (by decide), if_neg (by omega)]
    have hrest := ih (show ones + 1 + r < count by omega)
    rw [Nat.add_right_comm, Nat.add_assoc] at hrest
    exact hone.append hrest

/-- The ranks of the selectors. Those beyond the largest number of selectors are dropped. -/
lemma leads_ranks (row : UInt32) (used : Array UInt8) {count : Nat} (hcount : count ≤ 256)
    {rs : List Nat} (hrs : rs ≠ []) (hlt : ∀ r ∈ rs, r < count) (ranks : Array Nat)
    (hsize : ranks.size ≤ maxSelectors) :
    Leads (.selector row used count rs.length 0 ranks) (rs.flatMap unary)
      (endSelectors row used count ((ranks.toList ++ rs).take maxSelectors).toArray) := by
  induction rs generalizing ranks with
  | nil => exact absurd rfl hrs
  | cons r rs ih =>
    have hr : r < count := hlt r List.mem_cons_self
    have hfirst := leads_unary row used (r :: rs).length ranks (show 0 + r < count by omega)
    -- the ranks after this one
    obtain ⟨ranks', hranks, hsize', htake⟩ : ∃ ranks' : Array Nat,
        (if ranks.size < maxSelectors then ranks.push (r % 256) else ranks) = ranks' ∧
          ranks'.size ≤ maxSelectors ∧
          (ranks'.toList ++ rs).take maxSelectors =
            (ranks.toList ++ r :: rs).take maxSelectors := by
      refine ⟨_, rfl, ?_, ?_⟩
      · split_ifs
        · rw [Array.size_push]
          omega
        · exact hsize
      · split_ifs with h
        · rw [Nat.mod_eq_of_lt (by omega), Array.toList_push, List.append_assoc,
            List.singleton_append]
        · have hfull : ranks.toList.length = maxSelectors := by
            rw [Array.length_toList]
            omega
          rw [← hfull, List.take_left, List.take_left]
    simp only [accept, if_true, Nat.zero_add, hranks, List.length_cons,
      Nat.add_sub_cancel] at hfirst
    rw [← htake, List.flatMap_cons]
    cases rs with
    | nil =>
      rw [List.flatMap_nil, List.append_nil, List.append_nil,
        List.take_of_length_le (by rwa [Array.length_toList])]
      simpa using hfirst
    | cons r' rs =>
      rw [if_neg (by simp)] at hfirst
      exact hfirst.append
        (ih (by simp) (fun x hx => hlt x (List.mem_cons_of_mem _ hx)) ranks' hsize')

/-- **The selectors**, as far as they can be of use. -/
lemma leads_selectors (row : UInt32) (used : Array UInt8) {count : Nat} (hcount : count ≤ 256)
    {selectors : List Nat} (hne : selectors ≠ []) (hlt : ∀ s ∈ selectors, s < count) :
    Leads (.selector row used count selectors.length 0 #[])
      ((moveToFront (List.range count) selectors).flatMap unary)
      (.wait
        (.firstLength ⟨row, used, count, (selectors.take maxSelectors).toArray, #[], #[]⟩)) := by
  have hmem : ∀ s ∈ selectors, s ∈ List.range count := fun s hs => List.mem_range.2 (hlt s hs)
  have hranks : ∀ r ∈ moveToFront (List.range count) selectors, r < count := by
    simpa using idxOf_lt_of_mem_moveToFront hmem
  have hlen := length_moveToFront (List.range count) selectors
  have hne' : moveToFront (List.range count) selectors ≠ [] :=
    List.ne_nil_of_length_pos (hlen.symm ▸ List.length_pos_of_ne_nil hne)
  have h := leads_ranks row used hcount hne' hranks #[] (Nat.zero_le _)
  have hundo : undoRanks (List.range count) (moveToFront (List.range count)
      (selectors.take maxSelectors)) = some (selectors.take maxSelectors) :=
    undoRanks_moveToFront fun s hs => hmem s (List.mem_of_mem_take hs)
  rw [hlen, List.nil_append, take_moveToFront, endSelectors, List.toList_toArray, hundo] at h
  exact h

/-! ## The code lengths -/

/-- What a step up or down adds to a code length. -/
def stepOf (down : Bool) : Int :=
  if down then -1 else 1

/-- A zero makes a length one greater. -/
lemma stepOf_false : stepOf false = 1 := rfl

/-- A one makes a length one less. -/
lemma stepOf_true : stepOf true = -1 := rfl

/-- Steps of the code length, all up or all down. -/
lemma leads_steps (d : Draft) (down : Bool) (k : Nat) (length : Int)
    (hfirst : 1 ≤ length ∧ length ≤ maxCodeLength)
    (hlast : 1 ≤ length + k * stepOf down ∧ length + k * stepOf down ≤ maxCodeLength) :
    Leads (.lengthChanges d length) ((List.replicate k [true, down]).flatten ++ [false])
      ((lengthChanges d (length + k * stepOf down)).accept 0) := by
  induction k generalizing length with
  | zero =>
    rw [Nat.cast_zero, Int.zero_mul, Int.add_zero]
    exact .bit false rfl rfl
  | succ k ih =>
    have hnext : length + ((k + 1 : Nat) : Int) * stepOf down =
        length + stepOf down + k * stepOf down := by
      push_cast
      ring
    have hmid : 1 ≤ length + stepOf down ∧ length + stepOf down ≤ maxCodeLength := by
      cases down <;> simp only [stepOf_false, stepOf_true] at hlast ⊢ <;> omega
    have hchange : Leads (.lengthChanges d length) [true] (.wait (.lengthShrinks d length)) :=
      .bit true rfl rfl
    have hstep : Leads (.lengthShrinks d length) [down]
        (.wait (.lengthChanges d (length + stepOf down))) := by
      refine .bit down rfl ?_
      have hlength : (if down.toNat = 0 then length + 1 else length - 1) =
          length + stepOf down := by
        cases down <;> rfl
      simp only [accept, hlength]
      rw [checkLength, if_neg (by omega)]
    rw [hnext] at hlast ⊢
    exact hchange.append (hstep.append (ih _ hmid hlast))

/-- From one code length to the next. -/
lemma leads_stepBits (d : Draft) {length next : Nat} (h : 1 ≤ length ∧ length ≤ maxCodeLength)
    (hnext : 1 ≤ next ∧ next ≤ maxCodeLength) :
    Leads (.lengthChanges d length) (stepBits length next) ((lengthChanges d next).accept 0) := by
  rw [stepBits]
  rcases Nat.le_total length next with hle | hle
  · have hup := leads_steps d false (next - length) length (by omega)
      (by rw [stepOf_false]; omega)
    rw [stepOf_false,
      show (length : Int) + ((next - length : Nat) : Int) * 1 = next by omega] at hup
    rw [Nat.sub_eq_zero_of_le hle, List.replicate_zero, List.flatten_nil, List.append_nil]
    exact hup
  · have hdown := leads_steps d true (length - next) length (by omega)
      (by rw [stepOf_true]; omega)
    rw [stepOf_true,
      show (length : Int) + ((length - next : Nat) : Int) * -1 = next by omega] at hdown
    rw [Nat.sub_eq_zero_of_le hle, List.replicate_zero, List.flatten_nil, List.nil_append]
    exact hdown

/-- The code lengths of a table, after some of them. -/
lemma leads_lengthBits {d : Draft} {lengths : List Nat} (hne : lengths ≠ [])
    (hsize : d.lengths.size + lengths.length = d.used.size + 2) {length : Nat}
    (h : 1 ≤ length ∧ length ≤ maxCodeLength)
    (hrange : ∀ n ∈ lengths, 1 ≤ n ∧ n ≤ maxCodeLength) :
    Leads (.lengthChanges d length) (lengthBits length lengths)
      (endTable { d with lengths := d.lengths ++ lengths.toArray }) := by
  induction lengths generalizing d length with
  | nil => exact absurd rfl hne
  | cons n lengths ih =>
    have hn := hrange n List.mem_cons_self
    have hfirst := leads_stepBits d h hn
    simp only [accept, if_true, Int.toNat_natCast, Array.size_push] at hfirst
    rw [List.length_cons] at hsize
    rw [lengthBits]
    cases lengths with
    | nil =>
      rw [if_neg (by rw [← hsize]; exact lt_irrefl _)] at hfirst
      rw [lengthBits, List.append_nil]
      simpa using hfirst
    | cons n' lengths =>
      rw [if_pos (by rw [← hsize, List.length_cons]; omega)] at hfirst
      have hrest := ih (d := { d with lengths := d.lengths.push n }) (by simp)
        (by rw [Array.size_push, ← hsize]; omega) hn
        fun m hm => hrange m (List.mem_cons_of_mem _ hm)
      have hlengths : d.lengths.push n ++ (n' :: lengths).toArray =
          d.lengths ++ (n :: n' :: lengths).toArray := by
        simp
      simp only [hlengths] at hrest
      exact hfirst.append hrest

/-- **The code lengths of a table.** -/
lemma leads_tableBits {d : Draft} (hd : d.lengths = #[]) {lengths : List Nat}
    (hlen : lengths.length = d.used.size + 2)
    (hrange : ∀ n ∈ lengths, 1 ≤ n ∧ n ≤ maxCodeLength) :
    Leads (.firstLength d) (tableBits lengths)
      (endTable { d with lengths := lengths.toArray }) := by
  obtain ⟨n, ns, rfl⟩ : ∃ n ns, lengths = n :: ns :=
    List.exists_cons_of_ne_nil (List.ne_nil_of_length_pos (by omega))
  have hn := hrange n List.mem_cons_self
  have hmax : maxCodeLength = 20 := rfl
  have hfirst : Leads (.firstLength d) (bitsOf 5 n) (.wait (.lengthChanges d n)) := by
    refine .field rfl (by decide) ?_
    rw [Nat.mod_eq_of_lt (by omega), accept, checkLength, if_neg (by omega)]
  have hrest := leads_lengthBits (d := d) (by simp) (by rw [hd, hlen]; simp) hn hrange
  rw [hd, Array.empty_append] at hrest
  exact hfirst.append hrest

/-- **The code lengths of all tables.** -/
lemma leads_tables {d : Draft} (hd : d.lengths = #[]) {codes : List (List Nat)} (hne : codes ≠ [])
    (hcount : d.tables.size + codes.length = d.count)
    (hlen : ∀ lengths ∈ codes, lengths.length = d.used.size + 2)
    (hrange : ∀ lengths ∈ codes, ∀ n ∈ lengths, 1 ≤ n ∧ n ≤ maxCodeLength) :
    Leads (.firstLength d) (codes.flatMap tableBits)
      (awaitCode .first (.code .first false 0 0)
        (.ok (Gathering.init ⟨d.origin, d.used, d.tables ++ (codes.map CodeTable.ofCode).toArray,
          d.selectors⟩))) := by
  induction codes generalizing d with
  | nil => exact absurd rfl hne
  | cons lengths codes ih =>
    have hfirst := leads_tableBits hd (hlen lengths List.mem_cons_self)
      (hrange lengths List.mem_cons_self)
    rw [List.length_cons] at hcount
    simp only [endTable, Array.size_push] at hfirst
    rw [List.flatMap_cons]
    cases codes with
    | nil =>
      rw [if_neg (by rw [← hcount]; exact lt_irrefl _)] at hfirst
      simpa using hfirst
    | cons lengths' codes =>
      rw [if_pos (by rw [← hcount, List.length_cons]; omega)] at hfirst
      have hrest := ih
        (d := { d with tables := d.tables.push (.ofCode lengths), lengths := #[] }) rfl (by simp)
        (by rw [Array.size_push, ← hcount]; omega)
        (fun ls hls => hlen ls (List.mem_cons_of_mem _ hls))
        (fun ls hls => hrange ls (List.mem_cons_of_mem _ hls))
      have htables : d.tables.push (.ofCode lengths) ++
          ((lengths' :: codes).map CodeTable.ofCode).toArray =
          d.tables ++ ((lengths :: lengths' :: codes).map CodeTable.ofCode).toArray := by
        simp
      simp only [htables] at hrest
      exact hfirst.append hrest

/-- **The head of a block leads to its first symbol.** -/
theorem leads_head (b : Block) :
    Leads .mark b.headBits
      (awaitCode .first (.code .first false 0 0) (.ok (Gathering.init b.plan))) := by
  have horigin : b.origin ≤ maxOrigin := by
    have h₁ := b.origin_lt
    have h₂ := b.length_contents
    simp only [maxOrigin]
    omega
  have hsel := List.length_pos_of_ne_nil b.selectors_ne_nil
  have hcodes : b.codes ≠ [] := List.ne_nil_of_length_pos (by have := b.length_codes; omega)
  have htables := leads_tables (d := ⟨UInt32.ofNat b.origin, (usedBytes b.contents).toArray,
    b.codes.length, (b.selectors.take maxSelectors).toArray, #[], #[]⟩) rfl hcodes (by simp)
    (by simpa using b.length_code) b.code_range
  rw [Array.empty_append] at htables
  exact leads_blockMark.append ((leads_origin horigin).append ((leads_map b.contents_ne _).append
    ((leads_counts _ _ b.length_codes ⟨hsel, b.length_selectors⟩).append
      ((leads_selectors _ _ (by have := b.length_codes; omega) b.selectors_ne_nil
        b.selector_lt).append htables))))

end Nsis.Bzip2.Phase
