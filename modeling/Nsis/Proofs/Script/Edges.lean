import Nsis.Proofs.Script.PluginCalls

/-!
# References to code

The references of a command to code are the edges of the control-flow graph: to the targets of its
jumps, and to the command behind it. Which operands are looked at, and whether control goes on, is
said by the table of instructions, by marks on the command, or by both. Together they agree with the
jump parameters of the entry, but for one operand: the last jump of a message box is not looked at.

## Main definitions

* `Nsis.Script.Command.jumpFlow` — how the targets of the jumps of a command are reached.
* `Nsis.Script.Command.RefersFrom` — the reference to code from an operand.
* `Nsis.Script.Command.JumpsTo` — where a jump of the entry at the address of a command goes.

## Main results

* `Nsis.Script.codeRef_mem_references` — the references of a command to code.
* `Nsis.Script.Decoded.codeRef_mem_iff` — the edges of a decoded command.
* `Nsis.Script.Decoded.flowsOn_iff` — when control goes on behind it.
* `Nsis.Script.jumps_are_referenced` — every jump is referred to, except the last one of a message
  box.
* `Nsis.Script.code_references_sound` — references go to jumps, and control goes on where nothing
  prevents it.
-/

namespace Nsis.Script

/-! ## The references of strings -/

/-- Whether an event refers to code. -/
def Event.IsCode : Event → Prop
  | .codeRef _ _ _ => True
  | _ => False

/-- The symbols of a string refer to data only. -/
lemma not_isCode_of_mem_symbolRefs {p : Program} {offset address : Int} {symbols : List Symbol}
    {e : Event} (h : e ∈ (symbolRefs p offset address symbols).events) : ¬ e.IsCode := by
  induction symbols generalizing address with
  | nil => simp [symbolRefs] at h
  | cons symbol symbols ih =>
    cases symbol with
    | literal text =>
      rw [symbolRefs] at h
      split_ifs at h
      · simp only [Trace.mem_events_bind, Trace.mem_events_emit] at h
        rcases h with rfl | ⟨-, -, rfl | ⟨-, -, rfl | ⟨-, -, h⟩⟩⟩
        · exact id
        · exact id
        · exact id
        · exact ih h
      · exact ih h
    | var n =>
      rw [symbolRefs] at h
      split_ifs at h
      · simp only [Trace.mem_events_bind, Trace.mem_events_emit, Trace.events_ofExcept,
          List.not_mem_nil, false_or] at h
        rcases h with ⟨_, -, rfl | ⟨-, -, h⟩⟩
        · exact id
        · exact ih h
      · exact ih h
    | lang n => exact ih h
    | shell a b => exact ih h

/-- The references of a string refer to data only. -/
lemma not_isCode_of_mem_stringRefs {p : Program} {offset address : Int} {e : Event}
    (h : e ∈ (stringRefs p offset address).events) : ¬ e.IsCode := by
  unfold stringRefs at h
  rw [Trace.mem_events_bind] at h
  rcases h with h | ⟨symbols, -, h⟩
  · simp at h
  · cases symbols with
    | none => simp at h
    | some symbols => exact not_isCode_of_mem_symbolRefs h

/-! ## The references of operands -/

/-- How the targets of the jumps of a command are reached. -/
def Command.jumpFlow (c : Command) : Flow :=
  if c.opcode = Opcode.call then .call else .jump

/-- An operand refers to code exactly if it is an address to jump to, and then to that address. -/
lemma codeRef_mem_operandRefs {p : Program} {c : Command} {o : Operand} {access : Access}
    {offset target : Int} {flow : Flow} :
    .codeRef offset target flow ∈ (operandRefs p c o access).events ↔
      o.kind = .near ∧ offset = (o.index + 1) * 4 ∧ target = o.address ∧ flow = c.jumpFlow := by
  unfold operandRefs
  cases hkind : o.kind with
  | near => simp [Command.jumpFlow]
  | memory =>
    simp only [reduceCtorEq, false_and, iff_false]
    split_ifs
    · exact fun h => not_isCode_of_mem_stringRefs h trivial
    · simp
  | immediate =>
    simp only [reduceCtorEq, false_and, iff_false]
    split_ifs
    · intro h
      rw [Trace.mem_events_bind] at h
      rcases h with h | ⟨args, -, h⟩
      · simp at h
      · obtain ⟨address, -, h⟩ := Trace.exists_of_mem_events_each h
        exact not_isCode_of_mem_stringRefs h trivial
    · simp
  | void => simp
  | register => simp
  | other => simp

/-- The operands that are looked at. -/
lemma mem_described {c : Command} {feature : Int} {bit : Nat → Nat} {o : Operand} :
    o ∈ described c feature bit ↔
      ∃ i < Command.operandCount, Bits.isSet feature (bit i) = true ∧ c.operands[i]? = some o := by
  simp only [described, List.mem_filterMap, List.mem_filter, List.mem_range, and_assoc]

/-- Operand `i` of a command is an address to jump to, and this is the reference to it. -/
def Command.RefersFrom (c : Command) (i : Nat) (offset target : Int) (flow : Flow) : Prop :=
  ∃ o, c.operands[i]? = some o ∧ o.kind = .near ∧ offset = (o.index + 1) * 4 ∧ target = o.address ∧
    flow = c.jumpFlow

/-- The references of the operands that are looked at to code. -/
lemma codeRef_mem_each_described {p : Program} {c : Command} {feature : Int} {bit : Nat → Nat}
    {access : Access}
    (h : (Trace.each (fun o => operandRefs p c o access) (described c feature bit)).result = .ok ())
    {offset target : Int} {flow : Flow} :
    .codeRef offset target flow ∈
      (Trace.each (fun o => operandRefs p c o access) (described c feature bit)).events ↔
      ∃ i < Command.operandCount, Bits.isSet feature (bit i) = true ∧
        c.RefersFrom i offset target flow := by
  rw [Trace.mem_events_each h]
  simp only [mem_described, codeRef_mem_operandRefs]
  constructor
  · rintro ⟨o, ⟨i, hi, hbit, ho⟩, hrefers⟩
    exact ⟨i, hi, hbit, o, ho, hrefers⟩
  · rintro ⟨i, hi, hbit, o, ho, hrefers⟩
    exact ⟨o, ⟨i, hi, hbit, ho⟩, hrefers⟩

/-- **The references of a command to code**: to the target of each jump that is looked at, and to
the command behind it if control goes on. -/
lemma codeRef_mem_references {p : Program} {c : Command} {feature : Int}
    (h : (references p c feature).result = .ok ()) {offset target : Int} {flow : Flow} :
    .codeRef offset target flow ∈ (references p c feature).events ↔
      (∃ i < Command.operandCount,
        (Bits.isSet feature (Feature.use i) = true ∨ Bits.isSet feature (Feature.change i) = true) ∧
          c.RefersFrom i offset target flow) ∨
        (flowsOn c feature = true ∧ offset = 0 ∧ target = c.address + c.size ∧
          flow = .ordinary) := by
  obtain ⟨_, huses, h⟩ := Trace.bind_result_eq_ok.1 h
  obtain ⟨_, hchanges, -⟩ := Trace.bind_result_eq_ok.1 h
  have hbehind : .codeRef offset target flow ∈ (do
        if Bits.isSet feature Feature.jump then Trace.emit (.enqueue .jumps c.address)
        if flowsOn c feature then Trace.emit (.codeRef 0 (c.address + c.size) .ordinary) :
          Telling).events ↔
      flowsOn c feature = true ∧ offset = 0 ∧ target = c.address + c.size ∧ flow = .ordinary := by
    cases Bits.isSet feature Feature.jump <;> cases flowsOn c feature <;>
      simp [Trace.mem_events_bind]
  unfold references
  rw [Trace.mem_events_bind_ok _ huses, Trace.mem_events_bind_ok _ hchanges,
    codeRef_mem_each_described huses, codeRef_mem_each_described hchanges]
  refine Iff.trans (or_congr_right (or_congr_right hbehind)) ?_
  rw [← or_assoc]
  refine or_congr_left ⟨?_, ?_⟩
  · rintro (⟨i, hi, hbit, hrefers⟩ | ⟨i, hi, hbit, hrefers⟩)
    · exact ⟨i, hi, .inl hbit, hrefers⟩
    · exact ⟨i, hi, .inr hbit, hrefers⟩
  · rintro ⟨i, hi, hbit | hbit, hrefers⟩
    · exact .inl ⟨i, hi, hbit, hrefers⟩
    · exact .inr ⟨i, hi, hbit, hrefers⟩

/-! ## The table of instructions -/

namespace Instruction

/-- The description of an instruction says which operands it uses and changes. -/
lemma isSet_feature {ins : Instruction} (h : ins ∈ table) :
    (∀ i < Command.operandCount, Bits.isSet ins.feature (Feature.use i) = decide (i ∈ ins.uses) ∧
      Bits.isSet ins.feature (Feature.change i) = decide (i ∈ ins.changes)) ∧
      Bits.isSet ins.feature Feature.stop = ins.stops := by
  revert ins
  decide

/-- Every jump of an instruction is used, except the last one of a message box, and none is
changed. -/
lemma jump_mem_uses_iff {ins : Instruction} (hins : ins ∈ table) {i : Nat}
    (hi : i < Command.operandCount) (h : ins.format.toList[i]? = some 'J') :
    (i ∈ ins.uses ↔ ¬ (ins.name = "MessageBox" ∧ i = 5)) ∧ i ∉ ins.changes := by
  revert i
  revert ins
  decide

/-- Behind which instructions control does not go on, and behind which ones it depends on the
jumps. -/
lemma stops_iff_and_checksFlow_iff {ins : Instruction} (h : ins ∈ table) :
    (ins.stops = true ↔ ins.name ∈ ["Return", "Abort", "Quit"]) ∧
      (ins.checksFlow = true ↔
        ins.name ∈ ["Jmp", "IfFileExists", "IfFlag", "StrCmp", "IntCmp", "IsWindow"]) := by
  revert ins
  decide

end Instruction

/-! ## Jumps -/

/-- Parameter `i` of the entry at the address of a command is a jump that is not left out, and this
is where it goes. -/
def Command.JumpsTo (p : Program) (c : Command) (i : Nat) (target : Int) : Prop :=
  ∃ n s, c.Jump p i n ∧ 0 < n ∧ p.segments.lookup "ENTRIES" = some s ∧
    target = s.start + 28 * (n - 1)

/-- The address of code is counted from the start of the segment of entries. -/
lemma exists_entries_of_codeAddress {p : Program} {n address : Int}
    (h : p.codeAddress n = .ok address) :
    ∃ s, p.segments.lookup "ENTRIES" = some s ∧ address = s.start + 28 * n := by
  rw [Program.codeAddress, Program.segment] at h
  cases hs : p.segments.lookup "ENTRIES" with
  | none =>
    rw [hs] at h
    cases h
  | some s =>
    rw [hs] at h
    cases h
    refine ⟨s, rfl, ?_⟩
    simp only [Entry.offsetOf, Entry.size]
    omega

variable {p : Program} {c : Command} {i : Nat} {n : Int}

/-- A jump is a natural number. -/
lemma Command.Jump.nonneg (h : c.Jump p i n) : 0 ≤ n := by
  obtain ⟨j, -, rfl⟩ := List.mem_map.1 (List.mem_of_getElem? h.2)
  exact Int.natCast_nonneg _

/-- A jump stands in the place of an operand. -/
lemma Command.Jump.lt_operandCount (h : c.Jump p i n) : i < Command.operandCount := by
  obtain ⟨hlt, -⟩ := List.getElem?_eq_some_iff.1 h.2
  simpa [Program.paramsAt, Command.operandCount] using hlt

/-- What jumps to a target has a jump. -/
lemma Command.JumpsTo.exists_jump {target : Int} (h : c.JumpsTo p i target) :
    ∃ n, c.Jump p i n := by
  obtain ⟨n, -, hjump, -⟩ := h
  exact ⟨n, hjump⟩

namespace Decoded

/-- An operand that is an address to jump to is where the jump in its place goes. -/
lemma jumpsTo_of_near (h : Decoded p c) {o : Operand} (ho : c.operands[i]? = some o)
    (hnear : o.kind = .near) : c.JumpsTo p i o.address := by
  obtain ⟨n, hjump, hpos⟩ := (h.operands.near_iff i o ho).1 hnear
  obtain ⟨s, hs, haddress⟩ := exists_entries_of_codeAddress (h.operands.address i o n ho hjump hpos)
  exact ⟨n, s, hjump, hpos, hs, haddress⟩

/-- For a jump that is not left out, the operand in its place is an address to jump to. -/
lemma near_of_jump (h : Decoded p c) (hjump : c.Jump p i n) (hpos : 0 < n) :
    ∃ o s, c.operands[i]? = some o ∧ o.kind = .near ∧ p.segments.lookup "ENTRIES" = some s ∧
      o.address = s.start + 28 * (n - 1) := by
  obtain ⟨o, ho⟩ : ∃ o, c.operands[i]? = some o :=
    ⟨_, List.getElem?_eq_getElem (h.operands.length_eq ▸ hjump.lt_operandCount)⟩
  obtain ⟨s, hs, haddress⟩ := exists_entries_of_codeAddress (h.operands.address i o n ho hjump hpos)
  exact ⟨o, s, ho, (h.operands.near_iff i o ho).2 ⟨n, hjump, hpos⟩, hs, haddress⟩

/-- The references from the operands of a decoded command are its jumps. -/
lemma refersFrom_iff (h : Decoded p c) {offset target : Int} {flow : Flow} :
    c.RefersFrom i offset target flow ↔
      c.JumpsTo p i target ∧ offset = 4 * (i + 1) ∧ flow = c.jumpFlow := by
  constructor
  · rintro ⟨o, ho, hnear, rfl, rfl, rfl⟩
    refine ⟨h.jumpsTo_of_near ho hnear, ?_, rfl⟩
    rw [h.operands.index_eq ho]
    omega
  · rintro ⟨⟨n, s, hjump, hpos, hs, rfl⟩, rfl, rfl⟩
    obtain ⟨o, s', ho, hnear, hs', haddress⟩ := h.near_of_jump hjump hpos
    obtain rfl : s = s' := Option.some.inj (hs.symm.trans hs')
    refine ⟨o, ho, hnear, ?_, haddress.symm, rfl⟩
    rw [h.operands.index_eq ho]
    omega

/-- **The edges of a decoded command**: to where its jumps go, the last one of a message box aside,
and to the command behind it if control goes on. -/
lemma codeRef_mem_iff (h : Decoded p c)
    (hok : (references p c (Instruction.featureOf c.opcode.toNat)).result = .ok ())
    (offset target : Int) (flow : Flow) :
    .codeRef offset target flow ∈ (references p c (Instruction.featureOf c.opcode.toNat)).events ↔
      (∃ i, ¬ (c.instruction.name = "MessageBox" ∧ i = 5) ∧ c.JumpsTo p i target ∧
        offset = 4 * (i + 1) ∧
          flow = c.jumpFlow) ∨
        (flowsOn c (Instruction.featureOf c.opcode.toNat) = true ∧ offset = 0 ∧
          target = c.address + c.size ∧
          flow = .ordinary) := by
  have hins := Instruction.ofOpcode_mem_table c.opcode.toNat
  rw [codeRef_mem_references hok, Instruction.featureOf]
  refine or_congr_left (exists_congr fun i => ?_)
  rw [h.refersFrom_iff]
  constructor
  · rintro ⟨hi, hlooked, hto, hrest⟩
    obtain ⟨n, hjump⟩ := hto.exists_jump
    obtain ⟨huse, hchange⟩ := (Instruction.isSet_feature hins).1 i hi
    obtain ⟨huses, hchanges⟩ := Instruction.jump_mem_uses_iff hins hi hjump.1
    rw [huse, hchange, decide_eq_true_eq, decide_eq_true_eq] at hlooked
    exact ⟨huses.1 (hlooked.resolve_right hchanges), hto, hrest⟩
  · rintro ⟨hbox, hto, hrest⟩
    obtain ⟨n, hjump⟩ := hto.exists_jump
    have hi := hjump.lt_operandCount
    obtain ⟨huse, -⟩ := (Instruction.isSet_feature hins).1 i hi
    obtain ⟨huses, -⟩ := Instruction.jump_mem_uses_iff hins hi hjump.1
    refine ⟨hi, .inl ?_, hto, hrest⟩
    rw [huse, decide_eq_true_eq]
    exact huses.2 hbox

/-- **When control goes on** behind a decoded command: not behind one that stops, and not behind one
that always jumps. -/
lemma flowsOn_iff (h : Decoded p c) :
    flowsOn c (Instruction.featureOf c.opcode.toNat) = true ↔
      c.instruction.name ∉ ["Return", "Abort", "Quit"] ∧
        ¬ (c.instruction.name ∈ ["Jmp", "IfFileExists", "IfFlag", "StrCmp", "IntCmp", "IsWindow"] ∧
          ∀ i n, c.Jump p i n → n ≠ 0) := by
  have hins := Instruction.ofOpcode_mem_table c.opcode.toNat
  obtain ⟨hstops, hchecks⟩ := Instruction.stops_iff_and_checksFlow_iff hins
  have hjumps : (∀ i n, c.Jump p i n → 0 < n) ↔ ∀ i n, c.Jump p i n → n ≠ 0 := by
    refine forall₃_congr fun i n hjump => ?_
    have := hjump.nonneg
    omega
  have hmarked := h.noFlow_iff
  rw [hjumps] at hmarked
  unfold Command.instruction at hmarked ⊢
  rw [flowsOn, Bool.not_eq_true', Bool.or_eq_false_iff, Instruction.featureOf,
    (Instruction.isSet_feature hins).2, ← hstops, ← hchecks, ← hmarked, Bool.not_eq_true,
    Bool.not_eq_true]

end Decoded

/-- Only a call is referred to as one. -/
lemma Command.name_of_jumpFlow_eq_call (h : c.jumpFlow = .call) : c.instruction.name = "Call" := by
  unfold jumpFlow at h
  split_ifs at h with hopcode
  rw [instruction, hopcode]
  decide

/-! ## The edges of the control-flow graph -/

variable {ea : Int} {size : Nat} {events : List Event}

/-- **Every jump is referred to, except the last one of a message box.** The operands that are
addresses to jump to are the jumps of the entry that are not left out. The references of the command
have an edge from the place of each of them to its target, but for parameter five of a message
box. -/
theorem jumps_are_referenced (hana : analyseAt p ea = (.ok size, c))
    (hemu : references p c (Instruction.featureOf c.opcode.toNat) = ⟨events, .ok ()⟩) :
    (∀ i o, c.operands[i]? = some o → o.kind = .near → ∃ n, c.Jump p i n ∧ 0 < n) ∧
      ∀ i n, c.Jump p i n → 0 < n →
        ∃ o s, c.operands[i]? = some o ∧ o.kind = .near ∧ p.segments.lookup "ENTRIES" = some s ∧
          o.address = s.start + 28 * (n - 1) ∧
          ((∃ flow, .codeRef (4 * (i + 1)) o.address flow ∈ events) ↔
            ¬ (c.instruction.name = "MessageBox" ∧ i = 5)) := by
  obtain ⟨hdecoded, -, -⟩ := decoded_of_analyseAt hana
  have hedges := hdecoded.codeRef_mem_iff (by rw [hemu])
  simp only [hemu] at hedges
  refine ⟨fun i o ho => (hdecoded.operands.near_iff i o ho).1, fun i n hjump hpos => ?_⟩
  obtain ⟨o, s, ho, hnear, hs, haddress⟩ := hdecoded.near_of_jump hjump hpos
  refine ⟨o, s, ho, hnear, hs, haddress, ?_⟩
  simp only [hedges]
  constructor
  · rintro ⟨flow, ⟨j, hbox, -, hoffset, -⟩ | ⟨-, hoffset, -⟩⟩
    · obtain rfl : i = j := by omega
      exact hbox
    · omega
  · intro hbox
    exact ⟨_, .inl ⟨i, hbox, hdecoded.jumpsTo_of_near ho hnear, rfl, rfl⟩⟩

/-- A script that compares numbers, shows a message box and jumps back. All jumps but one of the
comparison are there. -/
def edgeScript : Program where
  version := .text "3"
  segments := [("ENTRIES", ⟨16, 100⟩), ("STRINGS", ⟨4, 11⟩)]
  memory := (Memory.write {} 4 [0, 0x41, 0, 0x42, 0, 0x43, 0]).write 16 (List.flatMap Bytes.ofWord [
    0x1c, 1, 3, 2, 0, 3, 0, 0x16, 0, 1, 6, 3, 7, 1, 2, 1, 0, 0, 0, 0, 0])
  names := []

/-- The comparison of the script refers to where its last jump goes. -/
theorem jumps_referenced_edgeScript :
    ∃ c events, analyseAt edgeScript 16 = (.ok 28, c) ∧
      references edgeScript c (Instruction.featureOf c.opcode.toNat) = ⟨events, .ok ()⟩ ∧
      c.Jump edgeScript 4 3 ∧ ∃ (o : Operand) (flow : Flow), c.operands[4]? = some o ∧
        o.kind = .near ∧ o.address = 72 ∧ .codeRef 20 72 flow ∈ events := by
  obtain ⟨c, hana, hok, hname, hjump⟩ : ∃ c, analyseAt edgeScript 16 = (.ok 28, c) ∧
      (references edgeScript c (Instruction.featureOf c.opcode.toNat)).result = .ok () ∧
      c.instruction.name = "IntCmp" ∧ c.Jump edgeScript 4 3 :=
    ⟨_, analyseAt_eq_of_fst (by decide +kernel), by decide +kernel, by decide +kernel,
      by decide +kernel, by decide +kernel⟩
  obtain ⟨o, s, ho, hnear, hs, haddress, hedge⟩ :=
    (jumps_are_referenced hana (Trace.eq_of_result hok)).2 4 3 hjump (by decide)
  obtain rfl : s = ⟨16, 100⟩ := Option.some.inj (hs.symm.trans (by decide))
  obtain ⟨flow, hflow⟩ := hedge.2 (by simp [hname])
  rw [haddress] at hflow
  exact ⟨c, _, hana, Trace.eq_of_result hok, hjump, o, flow, ho, hnear, haddress, hflow⟩

/-- **The last jump of a message box is lost**: its operand is an address to jump to, and nothing
refers to it. -/
theorem messageBox_loses_jump :
    ∃ c events, analyseAt edgeScript 44 = (.ok 28, c) ∧
      references edgeScript c (Instruction.featureOf c.opcode.toNat) = ⟨events, .ok ()⟩ ∧
      c.Jump edgeScript 5 1 ∧
        (∃ o : Operand, c.operands[5]? = some o ∧ o.kind = .near ∧ o.address = 16) ∧
        ∀ offset flow, .codeRef offset 16 flow ∉ events := by
  obtain ⟨c, hana, hok, hevents, hjump, ho⟩ : ∃ c, analyseAt edgeScript 44 = (.ok 28, c) ∧
      (references edgeScript c (Instruction.featureOf c.opcode.toNat)).result = .ok () ∧
      (references edgeScript c (Instruction.featureOf c.opcode.toNat)).events =
        [.dataRef 8 5 .read, .makeString 5 1, .makeName 5 "A", .codeRef 16 72 .jump,
          .codeRef 0 72 .ordinary] ∧
      c.Jump edgeScript 5 1 ∧ c.operands[5]? = some ⟨5, .near, .byte, 16, 0, 0, 0⟩ :=
    ⟨_, analyseAt_eq_of_fst (by decide +kernel), by decide +kernel, by decide +kernel,
      ⟨by decide +kernel, by decide +kernel⟩, by decide +kernel⟩
  refine ⟨c, _, hana, Trace.eq_of_result hok, hjump, ⟨_, ho, rfl, rfl⟩, ?_⟩
  rw [hevents]
  simp

/-- **References go to jumps, and control goes on exactly where nothing prevents it.** An edge that
is not to the command behind goes to where a jump of the entry goes, and only a call has edges that
are calls. The one other edge leads behind the command. It is there unless the instruction stops, or
is one that always jumps: none of its jumps is left out. -/
theorem code_references_sound (hana : analyseAt p ea = (.ok size, c))
    (hemu : references p c (Instruction.featureOf c.opcode.toNat) = ⟨events, .ok ()⟩) :
    c.address = ea ∧
      (∀ offset target flow, .codeRef offset target flow ∈ events → flow ≠ .ordinary →
        (∃ i n s, c.Jump p i n ∧ 0 < n ∧ p.segments.lookup "ENTRIES" = some s ∧
          target = s.start + 28 * (n - 1)) ∧
          (flow = .call → c.instruction.name = "Call")) ∧
      (∀ offset target, .codeRef offset target .ordinary ∈ events →
        offset = 0 ∧ target = ea + size) ∧
      (.codeRef 0 (ea + size) .ordinary ∈ events ↔
        c.instruction.name ∉ ["Return", "Abort", "Quit"] ∧
          ¬ (c.instruction.name ∈
            ["Jmp", "IfFileExists", "IfFlag", "StrCmp", "IntCmp", "IsWindow"] ∧
            ∀ i n, c.Jump p i n → n ≠ 0)) := by
  obtain ⟨hdecoded, rfl, hsize⟩ := decoded_of_analyseAt hana
  have hedges := hdecoded.codeRef_mem_iff (by rw [hemu])
  simp only [hemu, hsize] at hedges
  have hordinary : c.jumpFlow ≠ .ordinary := by
    unfold Command.jumpFlow
    split_ifs <;> simp
  refine ⟨rfl, fun offset target flow hmem hflow => ?_, fun offset target hmem => ?_, ?_⟩
  · rcases (hedges offset target flow).1 hmem with ⟨i, -, ⟨n, s, hto⟩, -, rfl⟩ | ⟨-, -, -, rfl⟩
    · exact ⟨⟨i, n, s, hto⟩, Command.name_of_jumpFlow_eq_call⟩
    · exact absurd rfl hflow
  · rcases (hedges offset target .ordinary).1 hmem with
        ⟨-, -, -, -, hflow⟩ | ⟨-, hoffset, htarget, -⟩
    · exact absurd hflow.symm hordinary
    · exact ⟨hoffset, htarget⟩
  · rw [hedges, ← hdecoded.flowsOn_iff]
    constructor
    · rintro (⟨-, -, -, -, hflow⟩ | ⟨hflows, -⟩)
      · exact absurd hflow.symm hordinary
      · exact hflows
    · exact fun hflows => .inr ⟨hflows, rfl, rfl, rfl⟩

/-- Control goes on behind the call of a plugin, and does not behind the jump of the script. -/
theorem code_references_edgeScript :
    (∃ c events, analyseAt pluginScript 16 = (.ok 168, c) ∧
      references pluginScript c (Instruction.featureOf c.opcode.toNat) = ⟨events, .ok ()⟩ ∧
      .codeRef 0 184 .ordinary ∈ events) ∧
    ∃ c events, analyseAt edgeScript 72 = (.ok 28, c) ∧
      references edgeScript c (Instruction.featureOf c.opcode.toNat) = ⟨events, .ok ()⟩ ∧
      .codeRef 0 100 .ordinary ∉ events := by
  constructor
  · obtain ⟨c, hana, hok, hname⟩ : ∃ c, analyseAt pluginScript 16 = (.ok 168, c) ∧
        (references pluginScript c (Instruction.featureOf c.opcode.toNat)).result = .ok () ∧
        c.instruction.name = "PluginCall" :=
      ⟨_, analyseAt_eq_of_fst (by decide +kernel), by decide +kernel, by decide +kernel⟩
    obtain ⟨-, -, -, hflow⟩ := code_references_sound hana (Trace.eq_of_result hok)
    refine ⟨c, _, hana, Trace.eq_of_result hok, hflow.2 ?_⟩
    rw [hname]
    exact ⟨by decide, fun h => absurd h.1 (by decide)⟩
  · obtain ⟨c, hana, hok, hname, hletters, hparam⟩ : ∃ c, analyseAt edgeScript 72 = (.ok 28, c) ∧
        (references edgeScript c (Instruction.featureOf c.opcode.toNat)).result = .ok () ∧
        c.instruction.name = "Jmp" ∧ c.instruction.format.toList = ['J'] ∧
        (edgeScript.paramsAt c.address)[0]? = some 1 :=
      ⟨_, analyseAt_eq_of_fst (by decide +kernel), by decide +kernel, by decide +kernel,
        by decide +kernel, by decide +kernel⟩
    obtain ⟨-, -, -, hflow⟩ := code_references_sound hana (Trace.eq_of_result hok)
    refine ⟨c, _, hana, Trace.eq_of_result hok, fun hmem => (hflow.1 hmem).2 ⟨by simp [hname], ?_⟩⟩
    rintro i n ⟨hletter, hn⟩ rfl
    rw [hletters] at hletter
    cases i with
    | zero => simp [hparam] at hn
    | succ i => simp at hletter

end Nsis.Script
