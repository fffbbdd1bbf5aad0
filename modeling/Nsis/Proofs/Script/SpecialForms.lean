import Nsis.Proofs.Script.PluginCalls

/-!
# Where special forms come from

An entry keeps its opcode when it is decoded, unless its parameters make it a special form of its
instruction, or it begins the call of a plugin. Each special form belongs to one instruction, with
one exception: the parameters of `StrLe` are looked at as if they were those of `SetFlag`, so that
some of its entries become a `ClearErrors`.

## Main definitions

* `Nsis.Script.formOrigins` — the special forms, and the instruction that each of them belongs to.
* `Nsis.Script.Specialisation.outcomes` — the opcodes that parameters can tell.

## Main results

* `Nsis.Script.Specialisation.mem_outcomes_of_opcode` — parameters tell one of these opcodes.
* `Nsis.Script.Instruction.outcome_cases` — each of them is the entry's own one, or that of a
  special form of its instruction, the one exception aside.
* `Nsis.Script.special_forms_have_their_origin` — which entries become special forms.
-/

namespace Nsis.Script

/-- The special forms, and the instruction that each of them belongs to. -/
def formOrigins : List (String × String) := [
  ("Push", "PushPop"), ("Pop", "PushPop"), ("Exch", "PushPop"), ("ClearErrors", "SetFlag"),
  ("IfErrors", "IfFlag"), ("AssignVar", "StrCpy"), ("EnableWindow", "ShowWindow"),
  ("HideWindow", "ShowWindow"), ("DeleteRegValue", "DeleteRegKey"),
  ("RegEnumValue", "RegEnumKey"), ("FileWriteByte", "FileWrite"), ("FileReadByte", "FileRead"),
  ("LogSet", "LogText")]

/-! ## The opcodes that parameters tell -/

namespace Specialisation

/-- The opcodes that parameters can tell, for an entry with opcode `own`. -/
def outcomes (s : Specialisation) (own : Nat) : List Nat :=
  match s with
  | pushPop => [Opcode.push, Opcode.pop, Opcode.exch]
  | setFlag => [own, Opcode.clearErrors]
  | ifFlag => [own, Opcode.ifErrors]
  | copy => [own, Opcode.assignVar]
  | showWindow => [own, Opcode.enableWindow, Opcode.hideWindow]
  | deleteReg => [Opcode.deleteRegKey, Opcode.deleteRegValue]
  | enumReg => [Opcode.regEnumKey, Opcode.regEnumValue]
  | fileWrite => [Opcode.fileWrite, Opcode.fileWriteByte]
  | fileRead => [Opcode.fileRead, Opcode.fileReadByte]
  | log => [Opcode.logText, Opcode.logSet]

/-- A look at a parameter decides, or the rest does. -/
lemma eq_or_of_look {α : Type} {look : Except Fault α} {P : α → Prop} [DecidablePred P] {a n : Int}
    {rest : Except Fault Int} (h : (look >>= fun v => if P v then pure a else rest) = .ok n) :
    n = a ∨ rest = .ok n := by
  obtain ⟨v, -, h⟩ := Fault.bind_eq_ok.1 h
  split at h
  · exact .inl (Except.ok.inj h).symm
  · exact .inr h

/-- **Parameters tell one of the outcomes.** -/
lemma mem_outcomes_of_opcode {s : Specialisation} {own : Nat} {params : List Int} {n : Int}
    (h : s.opcode own params = .ok n) : ∃ m ∈ s.outcomes own, n = (m : Nat) := by
  simp only [outcomes]
  cases s with
  | pushPop =>
    obtain rfl | h := eq_or_of_look h
    · exact ⟨Opcode.pop, by simp, rfl⟩
    obtain rfl | h := eq_or_of_look h
    · exact ⟨Opcode.exch, by simp, rfl⟩
    · exact ⟨Opcode.push, by simp, (Except.ok.inj h).symm⟩
  | setFlag =>
    obtain rfl | h := eq_or_of_look h
    · exact ⟨own, by simp, rfl⟩
    obtain rfl | h := eq_or_of_look h
    · exact ⟨own, by simp, rfl⟩
    · exact ⟨Opcode.clearErrors, by simp, (Except.ok.inj h).symm⟩
  | ifFlag =>
    obtain rfl | h := eq_or_of_look h
    · exact ⟨own, by simp, rfl⟩
    obtain rfl | h := eq_or_of_look h
    · exact ⟨own, by simp, rfl⟩
    obtain rfl | h := eq_or_of_look h
    · exact ⟨own, by simp, rfl⟩
    · exact ⟨Opcode.ifErrors, by simp, (Except.ok.inj h).symm⟩
  | copy =>
    obtain rfl | h := eq_or_of_look h
    · exact ⟨own, by simp, rfl⟩
    obtain rfl | h := eq_or_of_look h
    · exact ⟨own, by simp, rfl⟩
    · exact ⟨Opcode.assignVar, by simp, (Except.ok.inj h).symm⟩
  | showWindow =>
    obtain rfl | h := eq_or_of_look h
    · exact ⟨Opcode.hideWindow, by simp, rfl⟩
    obtain rfl | h := eq_or_of_look h
    · exact ⟨Opcode.enableWindow, by simp, rfl⟩
    · exact ⟨own, by simp, (Except.ok.inj h).symm⟩
  | deleteReg =>
    obtain rfl | h := eq_or_of_look h
    · exact ⟨Opcode.deleteRegKey, by simp, rfl⟩
    · exact ⟨Opcode.deleteRegValue, by simp, (Except.ok.inj h).symm⟩
  | enumReg =>
    obtain rfl | h := eq_or_of_look h
    · exact ⟨Opcode.regEnumKey, by simp, rfl⟩
    · exact ⟨Opcode.regEnumValue, by simp, (Except.ok.inj h).symm⟩
  | fileWrite =>
    obtain rfl | h := eq_or_of_look h
    · exact ⟨Opcode.fileWriteByte, by simp, rfl⟩
    · exact ⟨Opcode.fileWrite, by simp, (Except.ok.inj h).symm⟩
  | fileRead =>
    obtain rfl | h := eq_or_of_look h
    · exact ⟨Opcode.fileReadByte, by simp, rfl⟩
    · exact ⟨Opcode.fileRead, by simp, (Except.ok.inj h).symm⟩
  | log =>
    obtain rfl | h := eq_or_of_look h
    · exact ⟨Opcode.logSet, by simp, rfl⟩
    · exact ⟨Opcode.logText, by simp, (Except.ok.inj h).symm⟩

/-- The two parameters that make an entry clear the error flag. -/
lemma opcode_setFlag (p : Program) (ea : Int) (own : Nat) :
    setFlag.opcode own (p.paramsAt ea) =
      .ok (if p.paramAt ea 0 = 2 ∧ p.paramAt ea 1 = 0xac then Opcode.clearErrors
        else own : Nat) := by
  have hfirst : param (p.paramsAt ea) 0 = .ok (p.paramAt ea 0) := rfl
  have hsecond : param (p.paramsAt ea) 1 = .ok (p.paramAt ea 1) := rfl
  simp only [opcode, hfirst, hsecond, bind, Except.bind]
  by_cases htwo : p.paramAt ea 0 = 2
  · rw [if_neg (not_not.2 htwo)]
    by_cases hmark : p.paramAt ea 1 = 0xac
    · rw [if_neg (not_not.2 hmark), if_pos ⟨htwo, hmark⟩]
      rfl
    · rw [if_pos hmark, if_neg fun h => hmark h.2]
      rfl
  · rw [if_pos htwo, if_neg fun h => htwo h.1]
    rfl

end Specialisation

/-! ## The table of instructions -/

/-- The number of instructions of installers. -/
def plainCount : Nat := 0x45

namespace Instruction

/-- Each outcome of an entry's parameters is its own opcode, or that of a special form of its
instruction. Only `StrLe` has a special form that is not its own. -/
lemma outcome_cases {n : Nat} (hn : n < plainCount) :
    ∀ s ∈ (ofOpcode n).special, ∀ m ∈ s.outcomes n,
      m = n ∨ formOrigins.lookup (ofOpcode m).name = some (ofOpcode n).name ∨
        (ofOpcode m).name = "ClearErrors" ∧ (ofOpcode n).name = "StrLe" := by
  revert n
  decide

/-- No instruction of installers is a special form. -/
lemma lookup_name_eq_none {n : Nat} (hn : n < plainCount) :
    formOrigins.lookup (ofOpcode n).name = none := by
  revert n
  decide

/-- The parameters of `StrLe` are looked at as if they were those of `SetFlag`. -/
lemma special_of_name_eq {n : Nat} (hn : n < plainCount) (h : (ofOpcode n).name = "StrLe") :
    (ofOpcode n).special = some .setFlag := by
  revert n
  decide

end Instruction

/-! ## Decoded entries -/

variable {p : Program} {ea : Int} {size : Nat} {c : Command}

/-- A single entry gets the opcode that its parameters tell. -/
lemma opcode_of_decodeEntry {opcode : Nat} {params : List Int}
    (h : (decodeEntry p opcode params).run (Command.fresh ea) = .ok size c) :
    ∃ n : Nat, specialised opcode params = .ok (n, Instruction.ofOpcode n) ∧ c.opcode = n := by
  obtain ⟨-, n, hspecial, hdecode⟩ := decode_of_decodeEntry h
  obtain ⟨-, marks, hc, -⟩ := operandsFollow_of_decode hdecode rfl
  exact ⟨n, hspecial, by rw [hc]; rfl⟩

/-- **An entry keeps its opcode or becomes a special form** of its instruction, the one exception
aside. -/
lemma specialised_cases {opcode n : Nat} {params : List Int} {ins : Instruction}
    (hop : opcode < plainCount) (h : specialised opcode params = .ok (n, ins)) :
    n = opcode ∨
      formOrigins.lookup (Instruction.ofOpcode n).name = some (Instruction.ofOpcode opcode).name ∨
      (Instruction.ofOpcode n).name = "ClearErrors" ∧
        (Instruction.ofOpcode opcode).name = "StrLe" := by
  simp only [specialised] at h
  split at h
  · rename_i s hs
    obtain ⟨m, hm, heq⟩ := Fault.map_eq_ok.1 h
    obtain ⟨k, hk, rfl⟩ := Specialisation.mem_outcomes_of_opcode hm
    obtain rfl : k = n := congrArg Prod.fst heq
    exact Instruction.outcome_cases hop s hs k hk
  · obtain rfl : opcode = n := congrArg Prod.fst (Except.ok.inj h)
    exact .inl rfl

/-- Which entries of `StrLe` become a `ClearErrors`. -/
lemma specialised_strLe {opcode n : Nat} {ins : Instruction} (hop : opcode < plainCount)
    (hname : (Instruction.ofOpcode opcode).name = "StrLe")
    (h : specialised opcode (p.paramsAt ea) = .ok (n, ins)) :
    (Instruction.ofOpcode n).name = "ClearErrors" ↔ p.paramAt ea 0 = 2 ∧ p.paramAt ea 1 = 0xac := by
  simp only [specialised, Instruction.special_of_name_eq hop hname,
    Specialisation.opcode_setFlag] at h
  have hn :
      (if p.paramAt ea 0 = 2 ∧ p.paramAt ea 1 = 0xac then Opcode.clearErrors else opcode) = n :=
    congrArg Prod.fst (Except.ok.inj h)
  rw [← hn]
  split_ifs with hboth
  · exact ⟨fun _ => hboth, fun _ => by decide⟩
  · rw [hname]
    exact ⟨fun hclear => absurd hclear (by decide), fun h => absurd h hboth⟩

/-- **Special forms come from their own instruction**, except for one. An entry of an installer that
is decoded as a special form is one of the instruction that the form belongs to, or an entry of
`StrLe` with the parameters 2 and 0xac, which becomes a `ClearErrors`. Every other entry keeps its
opcode, unless it begins the call of a plugin. -/
theorem special_forms_have_their_origin (h : analyseAt p ea = (.ok size, c))
    (hop : p.opcodeAt ea ≤ 0x44) :
    (∀ origin, formOrigins.lookup c.instruction.name = some origin →
      (Instruction.ofOpcode (p.opcodeAt ea)).name = origin ∨
        c.instruction.name = "ClearErrors" ∧
          (Instruction.ofOpcode (p.opcodeAt ea)).name = "StrLe") ∧
    ((Instruction.ofOpcode (p.opcodeAt ea)).name = "StrLe" →
      (c.instruction.name = "ClearErrors" ↔ p.paramAt ea 0 = 2 ∧ p.paramAt ea 1 = 0xac)) ∧
    (formOrigins.lookup c.instruction.name = none → c.opcode ≠ Opcode.pluginCall →
      c.opcode = p.opcodeAt ea) := by
  have hop : p.opcodeAt ea < plainCount := Nat.lt_succ_of_le hop
  rw [analyseAt_eq_ok] at h
  by_cases hcalls : ∃ k, p.CallsPlugin (Command.fresh ea).position k
  · obtain ⟨k, hk⟩ := hcalls
    have hopcode : p.opcodeAt ea = Opcode.call := by
      rw [← Command.position_fresh ea]
      exact hk.call
    rw [run_analyse_of_callsPlugin hk] at h
    obtain ⟨hcall, -⟩ := isPluginCall_of_decodePluginCall h
    have hname : c.instruction.name = "PluginCall" := by
      rw [Command.instruction, hcall.opcode]
      decide
    have hnone : formOrigins.lookup "PluginCall" = none := by decide
    rw [hname, hopcode]
    exact ⟨fun origin hsome => absurd (hnone.symm.trans hsome) (by simp),
      fun hstr => absurd hstr (by decide),
      fun _ hne => absurd hcall.opcode hne⟩
  · rw [run_analyse_of_not_callsPlugin (not_exists.1 hcalls), Command.position_fresh] at h
    obtain ⟨n, hspecial, hn⟩ := opcode_of_decodeEntry h
    rw [Command.instruction, hn, Int.toNat_natCast]
    refine ⟨fun origin hsome => ?_, fun hstr => specialised_strLe hop hstr hspecial,
      fun hnone _ => ?_⟩
    · rcases specialised_cases hop hspecial with rfl | hform | hstr
      · rw [Instruction.lookup_name_eq_none hop] at hsome
        cases hsome
      · exact .inl (Option.some.inj (hform.symm.trans hsome))
      · exact .inr hstr
    · rcases specialised_cases hop hspecial with rfl | hform | hstr
      · rfl
      · rw [hnone] at hform
        cases hform
      · rw [hstr.1] at hnone
        exact absurd hnone (by decide)

/-- A script that takes an item off the stack and then asks for the length of a string. The string
stands at 0xac. -/
def formScript : Program where
  version := .text "3"
  segments := [("ENTRIES", ⟨16, 72⟩), ("STRINGS", ⟨72, 247⟩)]
  memory := (Memory.write {} 16 (List.flatMap Bytes.ofWord [
    0x1f, 3, 1, 0, 0, 0, 0, 0x18, 2, 0xac, 0, 0, 0, 0])).write 244 [0x41, 0x42, 0]
  names := []

/-- The first command of the script is the special form of another instruction. -/
theorem special_form_of_formScript :
    ∃ c, analyseAt formScript 16 = (.ok 28, c) ∧ formScript.opcodeAt 16 ≤ 0x44 ∧
      c.instruction.name = "Pop" ∧
      (Instruction.ofOpcode (formScript.opcodeAt 16)).name = "PushPop" := by
  obtain ⟨c, hana, hname⟩ : ∃ c, analyseAt formScript 16 = (.ok 28, c) ∧
      c.instruction.name = "Pop" :=
    ⟨_, analyseAt_eq_of_fst (by decide), by decide⟩
  have hop : formScript.opcodeAt 16 ≤ 0x44 := by decide
  obtain horigin | ⟨hclear, -⟩ :=
    (special_forms_have_their_origin hana hop).1 "PushPop" (by rw [hname]; decide)
  · exact ⟨c, hana, hop, hname, horigin⟩
  · rw [hname] at hclear
    exact absurd hclear (by decide)

/-- **A string's length becomes a cleared flag**: an entry of `StrLe` that is decoded as a
`ClearErrors`. -/
theorem strLe_becomes_clearErrors :
    ∃ c, analyseAt formScript 44 = (.ok 28, c) ∧ formScript.opcodeAt 44 ≤ 0x44 ∧
      c.opcode = Opcode.clearErrors ∧
      formOrigins.lookup c.instruction.name = some "SetFlag" ∧
      (Instruction.ofOpcode (formScript.opcodeAt 44)).name = "StrLe" :=
  ⟨_, analyseAt_eq_of_fst (by decide), by decide, by decide, by decide,
    by decide⟩

end Nsis.Script
