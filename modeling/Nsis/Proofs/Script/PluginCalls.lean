import Nsis.Proofs.Script.Decoding
import Nsis.Script.References

/-!
# Calls of plugins

A call of a plugin takes several entries: a call, the unpacking of the plugin, a flag, an entry for
each argument and the entry that makes the call. Whether it stands at an address is found out by
reading on, and the attempt may end at any of these entries. It succeeds exactly where the entries
are there, and otherwise leaves no trace.

## Main definitions

* `Nsis.Script.Program.Pushes` — an entry that pushes a string.
* `Nsis.Script.Program.PassesArgs` — arguments and the entry that makes the call.
* `Nsis.Script.Program.CallsPlugin` — the entries of a plugin call.

## Main results

* `Nsis.Script.Command.nextPluginCall_of_callsPlugin`,
  `Nsis.Script.Command.callsPlugin_of_nextPluginCall` — the attempt succeeds exactly on the entries
  of a plugin call.
* `Nsis.Script.decoded_of_analyseAt` — what decoding leaves of a command.
* `Nsis.Script.analyseAt_recognises_plugin_calls` — calls of plugins, and nothing else, become one
  command.
-/

namespace Nsis.Script

/-! ## The entries of a plugin call -/

namespace Program

/-- The entry at an address pushes a string. -/
def Pushes (p : Program) (address : Int) : Prop :=
  p.opcodeAt address = Opcode.pushPop ∧ p.paramAt address 1 = 0 ∧ p.paramAt address 2 = 0

/-- The entries from an address on are `k` arguments, and then the entry that makes the call. -/
structure PassesArgs (p : Program) (address : Int) (k : Nat) : Prop where
  pushes : ∀ j < k, p.Pushes (entryAfter address j)
  registerDll : p.opcodeAt (entryAfter address k) = Opcode.registerDll

/-- The entries from an address on are the call of a plugin with `k` arguments. -/
structure CallsPlugin (p : Program) (address : Int) (k : Nat) : Prop where
  call : p.opcodeAt address = Opcode.call
  extractFile : p.opcodeAt (entryAfter address 1) = Opcode.extractFile
  setFlag : p.opcodeAt (entryAfter address 2) = Opcode.setFlag
  args : p.PassesArgs (entryAfter address 3) k

variable {p : Program} {address : Int} {k : Nat}

/-- Behind the first argument, the others are passed. -/
lemma PassesArgs.tail (h : p.PassesArgs address (k + 1)) :
    p.PassesArgs (entryAfter address 1) k where
  pushes j hj := by
    rw [entryAfter_entryAfter, Nat.add_comm]
    exact h.pushes (j + 1) (by omega)
  registerDll := by
    rw [entryAfter_entryAfter, Nat.add_comm]
    exact h.registerDll

/-- An argument before others is passed with them. -/
lemma PassesArgs.cons (hpush : p.Pushes address) (h : p.PassesArgs (entryAfter address 1) k) :
    p.PassesArgs address (k + 1) where
  pushes j hj := by
    cases j with
    | zero =>
      rw [entryAfter_zero]
      exact hpush
    | succ j =>
      rw [Nat.add_comm, ← entryAfter_entryAfter]
      exact h.pushes j (by omega)
  registerDll := by
    rw [Nat.add_comm, ← entryAfter_entryAfter]
    exact h.registerDll

/-- The entry that makes the call stands before the end of memory, so that the search for it comes
to an end. -/
lemma CallsPlugin.lt_limit (h : p.CallsPlugin address k) :
    entryAfter address (k + 3) < p.memory.limit := by
  have hdll := h.args.registerDll
  rw [entryAfter_entryAfter, Nat.add_comm] at hdll
  refine Memory.lt_limit ?_
  rw [← opcodeAt, hdll]
  decide

end Program

namespace Command

variable {p : Program} {c : Command} {k n : Nat}

/-! ## Reading arguments -/

/-- **One round of reading arguments.** -/
lemma nextPluginArgs_eq (p : Program) (n : Nat) (c : Command) :
    c.nextPluginArgs p n =
      if p.opcodeAt c.position = Opcode.pushPop then
        if p.paramAt c.position 1 = 0 ∧ p.paramAt c.position 2 = 0 then
          (c.past 1).nextPluginArgs p (n + 1)
        else (none, c.past 1)
      else if p.opcodeAt c.position = Opcode.registerDll then
        (some ⟨n, p.paramsAt c.position⟩, c.past 1)
      else (none, { c with size := c.size + 4 }) := by
  obtain ⟨hopcode, hparams⟩ := c.nextEntry p
  have h1 : (p.paramsAt c.position)[1]? = some (p.paramAt c.position 1) := rfl
  have h2 : (p.paramsAt c.position)[2]? = some (p.paramAt c.position 2) := rfl
  rw [nextPluginArgs]
  simp only [hopcode, hparams, h1, h2, dite_eq_ite, Bool.and_eq_true, decide_eq_true_eq,
    Option.some.injEq]
  rfl

/-- Arguments that are there are read, and the entry that makes the call with them.

**Proof sketch.** Induction on the number of arguments: an entry that pushes a string is one more
argument, and the other ones stand behind it. -/
lemma nextPluginArgs_of_passesArgs (h : p.PassesArgs c.position k) :
    c.nextPluginArgs p n =
      (some ⟨n + k, p.paramsAt (entryAfter c.position k)⟩, c.past (k + 1)) := by
  induction k generalizing c n with
  | zero =>
    have hdll := h.registerDll
    rw [entryAfter_zero] at hdll ⊢
    rw [nextPluginArgs_eq, hdll, if_neg (by decide), if_pos rfl, Nat.add_zero]
  | succ k ih =>
    obtain ⟨hopcode, hzero⟩ := h.pushes 0 (by omega)
    rw [entryAfter_zero] at hopcode hzero
    have hrest := ih (c := c.past 1) (n := n + 1) (by rw [position_past]; exact h.tail)
    rw [nextPluginArgs_eq, if_pos hopcode, if_pos hzero, hrest, position_past,
      entryAfter_entryAfter, past_past, Nat.add_comm 1 k, Nat.add_comm 1 (k + 1),
      Nat.add_assoc n 1 k, Nat.add_comm 1 k]

/-- What is read as arguments are arguments.

**Proof sketch.** Induction along the reading. Only a push goes on, and only the entry that makes
the call ends it with success. -/
lemma passesArgs_of_nextPluginArgs {call : PluginCall} (h : (c.nextPluginArgs p n).1 = some call) :
    ∃ k, p.PassesArgs c.position k := by
  fun_induction nextPluginArgs p n c with
  | case1 n c word hpush params hzero ih =>
    have hparams : params = (p.paramsAt c.position, c.past 1) := (c.nextEntry p).2
    simp only [hparams, Bool.and_eq_true, decide_eq_true_eq] at hzero
    obtain ⟨k, hk⟩ := ih h
    rw [hparams, position_past] at hk
    exact ⟨k + 1, .cons ⟨hpush, Option.some.inj hzero.1, Option.some.inj hzero.2⟩ hk⟩
  | case2 n c word hpush params hzero => cases h
  | case3 n c word hpush hdll params =>
    refine ⟨0, fun j hj => absurd hj (Nat.not_lt_zero j), ?_⟩
    rw [entryAfter_zero]
    exact hdll
  | case4 n c word hpush hdll => cases h

/-- Reading arguments moves the cursor only. -/
lemma snd_nextPluginArgs (p : Program) (n : Nat) (c : Command) :
    ∃ size, (c.nextPluginArgs p n).2 = { c with size := size } := by
  fun_induction nextPluginArgs p n c with
  | case1 n c word hpush params hzero ih =>
    obtain ⟨size, hsize⟩ := ih
    have hparams : params = (p.paramsAt c.position, c.past 1) := (c.nextEntry p).2
    rw [hsize, hparams]
    exact ⟨size, rfl⟩
  | case2 n c word hpush params hzero =>
    have hparams : params = (p.paramsAt c.position, c.past 1) := (c.nextEntry p).2
    rw [hparams]
    exact ⟨_, rfl⟩
  | case3 n c word hpush hdll params =>
    have hparams : params = (p.paramsAt c.position, c.past 1) := (c.nextEntry p).2
    rw [hparams]
    exact ⟨_, rfl⟩
  | case4 n c word hpush hdll => exact ⟨_, rfl⟩

/-! ## The attempt to read a plugin call -/

/-- The attempt behind the first entry of a command goes on entry by entry. -/
lemma nextPluginCall_past (p : Program) (opcode : Nat) (c : Command) :
    (c.past 1).nextPluginCall p opcode =
      if opcode ≠ Opcode.call then (none, c.past 1)
      else if p.opcodeAt (entryAfter c.position 1) ≠ Opcode.extractFile then
        (none, ((c.past 1).nextWord p).2)
      else if p.opcodeAt (entryAfter c.position 2) ≠ Opcode.setFlag then
        (none, ((c.past 2).nextWord p).2)
      else (c.past 3).nextPluginArgs p 0 := by
  obtain ⟨hsecond, hbehind⟩ := (c.past 1).nextEntry p
  obtain ⟨hthird, hargs⟩ := (c.past 2).nextEntry p
  rw [position_past] at hsecond hthird
  rw [past_past] at hbehind hargs
  simp only [nextPluginCall, hsecond, hbehind, hthird, hargs]

/-- **The entries of a plugin call are recognised** behind the first of them. -/
theorem nextPluginCall_of_callsPlugin (h : p.CallsPlugin c.position k) :
    (c.past 1).nextPluginCall p (p.opcodeAt c.position) =
      (some ⟨k, p.paramsAt (entryAfter c.position (k + 3))⟩, c.past (k + 4)) := by
  have hargs : p.PassesArgs (c.past 3).position k := by
    rw [position_past]
    exact h.args
  rw [nextPluginCall_past, if_neg (not_not.2 h.call), if_neg (not_not.2 h.extractFile),
    if_neg (not_not.2 h.setFlag), nextPluginArgs_of_passesArgs hargs, position_past,
    entryAfter_entryAfter, past_past, Nat.zero_add,
    Nat.add_comm 3 k, Nat.add_comm 3 (k + 1)]

/-- **What is recognised is a plugin call.** -/
theorem callsPlugin_of_nextPluginCall {call : PluginCall}
    (h : ((c.past 1).nextPluginCall p (p.opcodeAt c.position)).1 = some call) :
    ∃ k, p.CallsPlugin c.position k := by
  rw [nextPluginCall_past] at h
  split_ifs at h with hcall hextract hflag
  obtain ⟨k, hk⟩ := passesArgs_of_nextPluginArgs h
  rw [position_past] at hk
  exact ⟨k, not_not.1 hcall, not_not.1 hextract, not_not.1 hflag, hk⟩

/-- The attempt moves the cursor only. -/
lemma snd_nextPluginCall (p : Program) (opcode : Nat) (c : Command) :
    ∃ size, ((c.past 1).nextPluginCall p opcode).2 = { c with size := size } := by
  rw [nextPluginCall_past]
  split_ifs
  · exact ⟨_, rfl⟩
  · exact ⟨_, rfl⟩
  · exact ⟨_, rfl⟩
  · exact snd_nextPluginArgs p 0 (c.past 3)

end Command

/-! ## Decoding -/

variable {p : Program} {ea : Int} {k size : Nat} {c : Command}

/-- An analysis of an address is one of a fresh command. -/
lemma analyseAt_eq_ok :
    analyseAt p ea = (.ok size, c) ↔ (analyse p).run (Command.fresh ea) = .ok size c := by
  unfold analyseAt
  split
  · rename_i hrun
    simp [hrun]
  · rename_i hrun
    simp [hrun]

/-- An analysis that gives a size gives a command with it. -/
lemma analyseAt_eq_of_fst (h : (analyseAt p ea).1 = .ok size) :
    analyseAt p ea = (.ok size, (analyseAt p ea).2) := by
  rw [← h]

/-- Decoding begins by reading an entry, and then goes by whether the call of a plugin was
recognised. -/
lemma run_analyse (p : Program) (c : Command) :
    (analyse p).run c =
      (match ((c.past 1).nextPluginCall p (p.opcodeAt c.position)).1 with
        | some call => decodePluginCall p call
        | none => decodeEntry p (p.opcodeAt c.position) (p.paramsAt c.position)).run
        ((c.past 1).nextPluginCall p (p.opcodeAt c.position)).2 := by
  obtain ⟨hopcode, hparams⟩ := c.nextEntry p
  have hread : (analyse p).run c =
      (match (((c.nextWord p).2.nextParams p).2.nextPluginCall p (c.nextWord p).1).1 with
        | some call => decodePluginCall p call
        | none => decodeEntry p (c.nextWord p).1 ((c.nextWord p).2.nextParams p).1).run
        (((c.nextWord p).2.nextParams p).2.nextPluginCall p (c.nextWord p).1).2 := rfl
  rw [hread, hparams, hopcode]

/-- The call of a plugin is decoded behind its last entry. -/
lemma run_analyse_of_callsPlugin (h : p.CallsPlugin c.position k) :
    (analyse p).run c =
      (decodePluginCall p ⟨k, p.paramsAt (entryAfter c.position (k + 3))⟩).run
        (c.past (k + 4)) := by
  rw [run_analyse, Command.nextPluginCall_of_callsPlugin h]

/-- A single entry is decoded in the same way, however much was read behind it. -/
lemma run_decodeEntry_resize (p : Program) (opcode : Nat) (params : List Int) (c : Command)
    (size : Int) :
    (decodeEntry p opcode params).run { c with size := size } =
      (decodeEntry p opcode params).run c := rfl

/-- Any other entry is decoded as if nothing behind it had been read. -/
lemma run_analyse_of_not_callsPlugin (h : ∀ k, ¬ p.CallsPlugin c.position k) :
    (analyse p).run c = (decodeEntry p (p.opcodeAt c.position) (p.paramsAt c.position)).run c := by
  obtain ⟨size, hsize⟩ := Command.snd_nextPluginCall p (p.opcodeAt c.position) c
  have hnone : ((c.past 1).nextPluginCall p (p.opcodeAt c.position)).1 = none := by
    by_contra hsome
    obtain ⟨call, hcall⟩ := Option.ne_none_iff_exists'.1 hsome
    obtain ⟨k, hk⟩ := Command.callsPlugin_of_nextPluginCall hcall
    exact h k hk
  rw [run_analyse, hnone, hsize]
  exact run_decodeEntry_resize p _ _ c size

/-- **What decoding leaves.** A command that was decoded at an address has operands that follow from
its instruction and from the entry there, and is marked where control does not go on. -/
theorem decoded_of_analyseAt (h : analyseAt p ea = (.ok size, c)) :
    Decoded p c ∧ c.address = ea ∧ c.size = size := by
  rw [analyseAt_eq_ok] at h
  by_cases hcalls : ∃ k, p.CallsPlugin (Command.fresh ea).position k
  · obtain ⟨k, hk⟩ := hcalls
    rw [run_analyse_of_callsPlugin hk] at h
    obtain ⟨hcall, haddress, hsize, -⟩ := isPluginCall_of_decodePluginCall h
    exact ⟨hcall.decoded, haddress, hsize⟩
  · rw [run_analyse_of_not_callsPlugin (not_exists.1 hcalls), Command.position_fresh] at h
    obtain ⟨hdecoded, haddress, hsize, -⟩ := decoded_of_decodeEntry h
    exact ⟨hdecoded, haddress, hsize⟩

/-! ## The arguments of a plugin call -/

/-- Where a string parameter points if strings begin at `start`: a parameter for a table of
languages stands for itself. -/
def stringTarget (start n : Int) : Int :=
  if Bits.isSet n Program.languageBit then n else n + start

/-- The address of a string is counted from the start of the segment of strings. -/
lemma stringAddress_eq {s : Segment} (hs : p.segments.lookup "STRINGS" = some s) (n : Int) :
    p.stringAddress n = .ok (stringTarget s.start n) := by
  rw [Program.stringAddress, stringTarget, Program.segment, hs]
  split_ifs <;> rfl

/-- The arguments of a plugin call are the strings that its entries push, in their order. -/
lemma pluginArgs_eq {s : Segment} (hs : p.segments.lookup "STRINGS" = some s) (c : Command)
    (k : Nat) :
    pluginArgs p c k =
      .ok ((List.range k).map fun j =>
        stringTarget s.start (p.paramAt (entryAfter c.address (3 + j)) 0)) := by
  have hword : ∀ j : Nat,
      p.stringAddress (p.memory.dword (c.address + 3 * Entry.size + 4 + j * Entry.size)) =
      pure (stringTarget s.start (p.paramAt (entryAfter c.address (3 + j)) 0)) := by
    intro j
    have hplace : c.address + 3 * Entry.size + 4 + j * Entry.size =
        entryAfter c.address (3 + j) + 4 * ((0 : Nat) + 1) := by
      simp only [entryAfter, Entry.offsetOf, Entry.size]
      omega
    rw [stringAddress_eq hs, hplace]
    rfl
  rw [pluginArgs, Int.toNat_natCast]
  simp only [hword, List.mapM_pure]
  rfl

/-- **Calls of plugins, and nothing else, become one command.** If the entries from an address on
are the call of a plugin with `k` arguments, the command takes all of them, its third operand is
`k`, and the arguments are the strings that were pushed, in their order. In every other case the
entry is decoded alone. -/
theorem analyseAt_recognises_plugin_calls (h : analyseAt p ea = (.ok size, c)) :
    (∀ k, p.CallsPlugin ea k →
      size = 28 * (k + 4) ∧ c.size = size ∧ c.opcode = Opcode.pluginCall ∧
        entryAfter ea (k + 3) < p.memory.limit ∧
        ∃ (o : Operand) (s : Segment), c.operands[2]? = some o ∧ o.kind = .immediate ∧ o.value = k ∧
          p.segments.lookup "STRINGS" = some s ∧
          pluginArgs p c o.value =
            .ok ((List.range k).map fun j =>
              stringTarget s.start (p.paramAt (entryAfter ea (3 + j)) 0))) ∧
      ((∀ k, ¬ p.CallsPlugin ea k) →
        size = 28 ∧ c.size = 28 ∧
          (decodeEntry p (p.opcodeAt ea) (p.paramsAt ea)).run (Command.fresh ea) = .ok 28 c) := by
  rw [analyseAt_eq_ok] at h
  refine ⟨fun k hk => ?_, fun hcalls => ?_⟩
  · rw [run_analyse_of_callsPlugin (by rwa [Command.position_fresh])] at h
    obtain ⟨hcall, haddress, hsize, rfl, s, hs⟩ := isPluginCall_of_decodePluginCall h
    obtain ⟨o, ho, hkind, -, hvalue, -⟩ := hcall.third
    refine ⟨rfl, hsize, hcall.opcode, hk.lt_limit, o, s, ho, hkind, hvalue, hs, ?_⟩
    rw [hvalue, pluginArgs_eq hs, haddress]
  · rw [run_analyse_of_not_callsPlugin (by rwa [Command.position_fresh]),
      Command.position_fresh] at h
    obtain ⟨-, -, hsize, rfl⟩ := decoded_of_decodeEntry h
    exact ⟨rfl, hsize, h⟩

/-- A script with one call of a plugin. Of its two arguments, one is in a table of languages. -/
def pluginScript : Program where
  version := .text "3"
  segments := [("ENTRIES", ⟨16, 184⟩), ("STRINGS", ⟨4, 11⟩)]
  memory := (Memory.write {} 4 [0, 0x41, 0, 0x42, 0, 0x43, 0]).write 16 (List.flatMap Bytes.ofWord [
    5, 9, 0, 0, 0, 0, 0, 0x14, 0, 1, 0, 0, 0, 0, 0x0d, 13, 1, 0, 0, 0, 0,
    0x1f, 5, 0, 0, 0, 0, 0, 0x1f, 0x80000001, 0, 0, 0, 0, 7, 0x2c, 1, 3, 0, 0, 0, 0])
  names := []

/-- The call of the script takes six entries, and its two arguments are found again. -/
theorem analyseAt_pluginScript :
    ∃ c, analyseAt pluginScript 16 = (.ok 168, c) ∧ pluginScript.CallsPlugin 16 2 ∧
      c.opcode = Opcode.pluginCall ∧
      ∃ o : Operand, c.operands[2]? = some o ∧ o.kind = .immediate ∧ o.value = 2 ∧
        pluginArgs pluginScript c o.value = .ok [9, 0x80000001] := by
  have hcalls : pluginScript.CallsPlugin 16 2 := by
    refine ⟨by decide +kernel, by decide +kernel, by decide +kernel, ?_, by decide +kernel⟩
    unfold Program.Pushes
    decide +kernel
  obtain ⟨c, hat⟩ : ∃ c, analyseAt pluginScript 16 = (.ok 168, c) :=
    ⟨_, analyseAt_eq_of_fst (by decide +kernel)⟩
  obtain ⟨-, -, hopcode, -, o, s, ho, hkind, hvalue, hs, hargs⟩ :=
    (analyseAt_recognises_plugin_calls hat).1 2 hcalls
  obtain rfl : s = ⟨4, 11⟩ := Option.some.inj (hs.symm.trans (by decide))
  refine ⟨c, hat, hcalls, hopcode, o, ho, hkind, hvalue, hargs.trans ?_⟩
  decide +kernel

end Nsis.Script
