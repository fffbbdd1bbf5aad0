import Nsis.Proofs.Script.PluginCalls
import Nsis.Script.Listing

/-!
# The names of plugin calls

The call of a plugin is shown by the names of its library and its function. Both are strings, and
their addresses are looked up in the operands of the command. But an operand is not always a string
in memory: a string that is a number, or a single variable, becomes an operand of another kind,
which does not keep the address of the string. Then the call is shown by what stands at another
address, or not at all.

## Main definitions

* `Nsis.Script.staysString` — the strings whose address is kept.
* `Nsis.Script.keptAddress` — the address that the operand of a string has.
* `Nsis.Script.Program.Denotes` — a parameter denotes a string that can be decoded.
* `Nsis.Script.Program.pluginNameAt` — the name of a plugin's function, from the addresses of two
  strings.
* `Nsis.Script.ownName` — the name of a plugin's function, from the strings that were passed.
* `Nsis.Script.ShowsName` — a command is shown by a name.

## Main results

* `Nsis.Script.operandAddress_of_setString` — the address in the operand of a string.
* `Nsis.Script.listing_of_isPluginCall` — how the call of a plugin is shown.
* `Nsis.Script.plugin_calls_are_named_iff` — when it is shown by its own names.
-/

namespace Nsis.Script

/-! ## Addresses of operands -/

/-- Whether the operand of a string is a string in memory. One that is a single variable, or a
number, is not. -/
def staysString : List Symbol → Bool
  | [.var _] => false
  | [.literal text] => (Text.integer? text).isNone
  | _ => true

/-- The address in the operand of the string at an address: that of the string if it stays one, that
of a variable in memory, and zero for a register or a number. -/
def keptAddress (p : Program) (address : Int) : List Symbol → Int
  | [.var n] => if n < registerCount ∨ n = noVar then 0 else (p.varAddress n).toOption.getD 0
  | [.literal text] => if (Text.integer? text).isNone then address else 0
  | _ => address

/-- A string that stays one keeps its address. -/
lemma keptAddress_of_staysString {p : Program} {address : Int} {symbols : List Symbol}
    (h : staysString symbols = true) : keptAddress p address symbols = address := by
  unfold staysString at h
  split at h
  · cases h
  · rw [keptAddress, if_pos h]
  · unfold keptAddress
    split <;> simp_all

section Operands

variable {p : Program} {i j : Nat} {n address : Int} {c c' : Command} {u : Unit}

/-- An operand that is changed has the address that the change gives to its old one. -/
lemma operandAddress_of_changeOperand {f : Operand → Operand}
    (h : (changeOperand i f).run c = .ok u c') {g : Int → Int}
    (hf : ∀ o, (f o).address = g o.address) : operandAddress c' i = g (operandAddress c i) := by
  obtain ⟨o, ho, rfl⟩ := changeOperand_eq_ok.1 h
  have hlt : i < c.operands.length := (List.getElem?_eq_some_iff.1 ho).1
  rw [operandAddress, operandAddress, ho, List.getElem?_set_self hlt]
  exact hf o

/-- The other operands keep their addresses. -/
lemma Filled.operandAddress_ne {P : Operand → Prop} (h : Filled i P c c') (hj : j ≠ i) :
    operandAddress c' j = operandAddress c j := by
  rw [operandAddress, h.getElem?_ne hj, operandAddress]

/-- Only a variable in memory brings an address with it. -/
lemma operandAddress_of_setVar (h : (setVar p i n).run c = .ok u c')
    (hzero : operandAddress c i = 0) : operandAddress c' i = keptAddress p address [.var n] := by
  unfold setVar at h
  rw [keptAddress]
  split at h
  · rename_i hregister
    rw [if_pos (.inl hregister), operandAddress_of_changeOperand h (g := id) fun _ => rfl]
    exact hzero
  · rename_i hregister
    split at h
    · rename_i hnone
      rw [if_pos (.inr hnone), operandAddress_of_changeOperand h (g := id) fun _ => rfl]
      exact hzero
    · rename_i hnone
      obtain ⟨_, d, -, hrest⟩ := Analysis.bind_eq_ok.1 h
      obtain ⟨var, d', hlookup, hset⟩ := Analysis.bind_eq_ok.1 hrest
      have hvar := (Analysis.ofExcept_eq_ok.1 hlookup).1
      rw [if_neg (by simp [hregister, hnone]),
        operandAddress_of_changeOperand hset (g := fun _ => var) fun _ => rfl, hvar]
      rfl

/-- **The address in the operand of a string.** -/
lemma operandAddress_of_setString {symbols : List Symbol} (h : (setString p i n).run c = .ok u c')
    (haddress : p.stringAddress n = .ok address)
    (hsymbols : p.symbolsAt address = .ok (some symbols)) (hzero : operandAddress c i = 0) :
    operandAddress c' i = keptAddress p address symbols := by
  have hplain : ∀ {u : Unit} {d : Command}, (setStringAt i address).run c = .ok u d →
      operandAddress d i = address :=
    fun h => operandAddress_of_changeOperand h (g := fun _ => address) fun _ => rfl
  obtain ⟨_, d, hrebase, hrest⟩ := Analysis.bind_eq_ok.1 h
  obtain ⟨hstart, rfl⟩ := Analysis.ofExcept_eq_ok.1 hrebase
  obtain rfl := Except.ok.inj (haddress.symm.trans hstart)
  obtain ⟨_, d, hdecode, hset⟩ := Analysis.bind_eq_ok.1 hrest
  obtain ⟨hread, rfl⟩ := Analysis.ofExcept_eq_ok.1 hdecode
  obtain rfl := Except.ok.inj (hsymbols.symm.trans hread)
  split at hset
  · rename_i v heq
    obtain rfl := Option.some.inj heq
    exact operandAddress_of_setVar hset hzero
  · rename_i text heq
    obtain rfl := Option.some.inj heq
    rw [keptAddress]
    split at hset
    · rename_i value hvalue
      rw [hvalue, if_neg (by simp), operandAddress_of_changeOperand hset (g := id) fun _ => rfl]
      exact hzero
    · rename_i hvalue
      rw [if_pos (by rw [hvalue]; rfl)]
      exact hplain hset
  · rename_i hvar hliteral
    rw [hplain hset]
    unfold keptAddress
    split <;> simp_all

end Operands

/-! ## The call of a plugin -/

namespace Program

/-- Parameter `i` of the entry that makes the plugin call at an address, behind its `k`
arguments. -/
def callParam (p : Program) (ea : Int) (k i : Nat) : Int :=
  p.paramAt (entryAfter ea (k + 3)) i

/-- A parameter denotes the string at an address: it is not one for a table of languages, and there
are symbols at the address that it stands for in the segment of strings. -/
structure Denotes (p : Program) (n address : Int) (symbols : List Symbol) : Prop where
  not_language : Bits.isSet n languageBit = false
  rebased : ∃ s, p.segments.lookup "STRINGS" = some s ∧ address = n + s.start
  decoded : ∃ length, p.decodeAt address = .ok (some (symbols, length))

/-- The name of a plugin's function, from the strings at two addresses. -/
def pluginNameAt (p : Program) (library function : Int) : Except Fault String := do
  let path ← p.textAt library
  let name ← p.textAt function
  pluginName (path.map (·.1)) (name.map (·.1))

variable {p : Program} {n address : Int} {symbols : List Symbol}

/-- A string that a parameter denotes stands at its address. -/
lemma Denotes.stringAddress_eq (h : p.Denotes n address symbols) :
    p.stringAddress n = .ok address := by
  obtain ⟨s, hs, rfl⟩ := h.rebased
  rw [Script.stringAddress_eq hs, stringTarget, h.not_language]
  rfl

/-- A string that a parameter denotes has its symbols at its address. -/
lemma Denotes.symbolsAt_eq (h : p.Denotes n address symbols) :
    p.symbolsAt address = .ok (some symbols) := by
  obtain ⟨length, hdecoded⟩ := h.decoded
  rw [symbolsAt, hdecoded]
  rfl

/-- A string that a parameter denotes has its text at its address. -/
lemma Denotes.textAt_eq (h : p.Denotes n address symbols) :
    ∃ length, p.textAt address = .ok (some (Symbol.textOf symbols, length)) := by
  obtain ⟨length, hdecoded⟩ := h.decoded
  refine ⟨length, ?_⟩
  rw [textAt, hdecoded]
  rfl

end Program

section Calls

variable {p : Program} {ea a₀ a₁ : Int} {i k size : Nat} {n address : Int} {c : Command}
variable {symbols library function : List Symbol}

/-- The operands of a new command have no address. -/
lemma operandAddress_fresh (ea : Int) (k i : Nat) :
    operandAddress ((Command.fresh ea).past k) i = 0 := by
  show (Command.freshOperands[i]?.map (·.address)).getD 0 = 0
  rw [Command.freshOperands, List.getElem?_map, Option.map_map]
  cases (List.range Command.operandCount)[i]? <;> rfl

/-- The addresses of library and function in the command of a plugin call. -/
lemma operandAddress_of_decodePluginCall {call : PluginCall}
    (h : (decodePluginCall p call).run ((Command.fresh ea).past k) = .ok size c)
    (hlibrary : p.Denotes (call.params[0]?.getD 0) a₀ library)
    (hfunction : p.Denotes (call.params[1]?.getD 0) a₁ function) :
    operandAddress c 0 = keptAddress p a₀ library ∧
      operandAddress c 1 = keptAddress p a₁ function := by
  obtain ⟨d₀, d₁, d₂, hset₀, hset₁, hargs, rfl, -⟩ := steps_of_decodePluginCall h
  have hfresh :
      ∀ i, operandAddress { (Command.fresh ea).past k with opcode := Opcode.pluginCall } i = 0 :=
    operandAddress_fresh ea k
  have hzero : operandAddress d₀ 1 = 0 :=
    ((filled_of_setString hset₀).operandAddress_ne (by decide)).trans (hfresh 1)
  constructor
  · calc operandAddress d₂ 0 = operandAddress d₁ 0 := hargs.operandAddress_ne (by decide)
      _ = operandAddress d₀ 0 := (filled_of_setString hset₁).operandAddress_ne (by decide)
      _ = keptAddress p a₀ library :=
        operandAddress_of_setString hset₀ hlibrary.stringAddress_eq hlibrary.symbolsAt_eq (hfresh 0)
  · calc operandAddress d₂ 1 = operandAddress d₁ 1 := hargs.operandAddress_ne (by decide)
      _ = keptAddress p a₁ function :=
        operandAddress_of_setString hset₁ hfunction.stringAddress_eq hfunction.symbolsAt_eq hzero

/-! ## Decoding succeeds -/

/-- An operand can be changed if it is there. -/
lemma exists_changeOperand (f : Operand → Operand) (hi : i < c.operands.length) :
    ∃ d, (changeOperand i f).run c = .ok () d ∧ d.operands.length = c.operands.length :=
  ⟨_, changeOperand_eq_ok.2 ⟨_, List.getElem?_eq_getElem hi, rfl⟩, List.length_set⟩

/-- A string that stays one can be decoded as an operand. -/
lemma exists_setString (h : p.Denotes n address symbols) (hstays : staysString symbols = true)
    (hi : i < c.operands.length) :
    ∃ d, (setString p i n).run c = .ok () d ∧ d.operands.length = c.operands.length := by
  obtain ⟨d, hset, hlength⟩ := exists_changeOperand
    (fun o => { o with kind := .memory, type := .string, address := address }) hi
  refine ⟨d, Analysis.bind_eq_ok.2 ⟨address, c, Analysis.ofExcept_eq_ok.2 ⟨h.stringAddress_eq, rfl⟩,
    Analysis.bind_eq_ok.2 ⟨some symbols, c, Analysis.ofExcept_eq_ok.2 ⟨h.symbolsAt_eq, rfl⟩, ?_⟩⟩,
    hlength⟩
  unfold staysString at hstays
  split at hstays
  · cases hstays
  · simp only [Option.isNone_iff_eq_none.1 hstays]
    exact hset
  · split
    · simp_all
    · simp_all
    · exact hset

/-- The call of a plugin whose library and function stay strings is decoded. -/
lemma exists_decodePluginCall {call : PluginCall}
    (hlibrary : p.Denotes (call.params[0]?.getD 0) a₀ library)
    (hfunction : p.Denotes (call.params[1]?.getD 0) a₁ function)
    (hstays₀ : staysString library = true) (hstays₁ : staysString function = true)
    (hlength : 2 < c.operands.length) :
    ∃ size c', (decodePluginCall p call).run c = .ok size c' := by
  obtain ⟨d₀, h₀, hlength₀⟩ :=
    exists_setString (c := { c with opcode := Opcode.pluginCall }) hlibrary hstays₀
    (Nat.lt_trans Nat.zero_lt_two hlength)
  rw [← hlength₀] at hlength
  obtain ⟨d₁, h₁, hlength₁⟩ :=
    exists_setString hfunction hstays₁ (Nat.lt_trans Nat.one_lt_two hlength)
  rw [← hlength₁] at hlength
  obtain ⟨d₂, h₂, hlength₂⟩ : ∃ d, (setNumber 2 call.args).run d₁ = .ok () d ∧
      d.operands.length = d₁.operands.length := exists_changeOperand _ hlength
  rw [← hlength₂] at hlength
  obtain ⟨d₃, h₃, -⟩ : ∃ d, (markOperand 2 OperandMark.stackArgs).run d₂ = .ok () d ∧
      d.operands.length = d₂.operands.length := exists_changeOperand _ hlength
  refine ⟨d₃.size.toNat, { d₃ with marks := Bits.set d₃.marks CommandMark.pluginCall }, ?_⟩
  rw [decodePluginCall, Analysis.run_bind (Analysis.modify_eq_ok (u := ()).2 rfl),
    Analysis.run_bind h₀, Analysis.run_bind h₁, Analysis.run_bind h₂, Analysis.run_bind h₃]
  rfl

/-! ## The listing -/

/-- The listing of a command begins with a name and a blank. -/
def ShowsName (p : Program) (c : Command) (name : String) : Prop :=
  ∃ rest, (listing p c).events = .text name .instruction :: .char ' ' :: rest

/-- The name of a plugin's function, from the symbols of library and function. -/
def ownName (library function : List Symbol) : String :=
  Text.Path.stem (Text.Path.baseName (Symbol.textOf library)) ++ "::" ++ Symbol.textOf function

/-- **How the call of a plugin is shown.** -/
lemma listing_of_isPluginCall (h : IsPluginCall k c) :
    listing p c = (do
      let name ← Trace.ofExcept (p.pluginNameAt (operandAddress c 0) (operandAddress c 1))
      Trace.emit (.text name .instruction)
      Trace.emit (.char ' ')
      showOperandAt p c 2
      Trace.emit .endLine) := by
  have hmarked : Bits.isSet c.marks CommandMark.pluginCall = true := by
    rw [h.marks]
    exact Bits.isSet_set_self _ _
  rw [listing, if_pos hmarked, pluginListing, Program.pluginNameAt]
  simp only [Trace.ofExcept_bind, bind_assoc]

/-- Which name the listing of a plugin call begins with. -/
lemma showsName_iff (h : IsPluginCall k c) {name : String} :
    ShowsName p c name ↔ p.pluginNameAt (operandAddress c 0) (operandAddress c 1) = .ok name := by
  rw [ShowsName, listing_of_isPluginCall h]
  cases p.pluginNameAt (operandAddress c 0) (operandAddress c 1) with
  | error e =>
    rw [Trace.events_bind_error _ rfl]
    simp
  | ok own =>
    rw [Trace.events_bind_ok _ rfl, Trace.events_bind_ok _ rfl, Trace.events_bind_ok _ rfl]
    simp [Trace.emit]

/-- A call whose strings could not be looked up is not shown at all. -/
lemma listing_eq_error (h : IsPluginCall k c) {e : Fault}
    (herror : p.pluginNameAt (operandAddress c 0) (operandAddress c 1) = .error e) :
    listing p c = ⟨[], .error e⟩ := by
  rw [listing_of_isPluginCall h, herror]
  rfl

/-- The command of a plugin call is marked as one, and has the addresses that its strings keep. -/
lemma isPluginCall_of_callsPlugin (hcalls : p.CallsPlugin ea k) (h : analyseAt p ea = (.ok size, c))
    (hlibrary : p.Denotes (p.callParam ea k 0) a₀ library)
    (hfunction : p.Denotes (p.callParam ea k 1) a₁ function) :
    IsPluginCall k c ∧ operandAddress c 0 = keptAddress p a₀ library ∧
      operandAddress c 1 = keptAddress p a₁ function := by
  rw [analyseAt_eq_ok, run_analyse_of_callsPlugin (by rwa [Command.position_fresh]),
    Command.position_fresh] at h
  exact ⟨(isPluginCall_of_decodePluginCall h).1,
    operandAddress_of_decodePluginCall h hlibrary hfunction⟩

/-- Strings that stay strings lead to a command. -/
lemma exists_analyseAt (hcalls : p.CallsPlugin ea k)
    (hlibrary : p.Denotes (p.callParam ea k 0) a₀ library)
    (hfunction : p.Denotes (p.callParam ea k 1) a₁ function) (hstays₀ : staysString library = true)
    (hstays₁ : staysString function = true) : ∃ size c, analyseAt p ea = (.ok size, c) := by
  have hlength : 2 < Command.freshOperands.length := by decide
  obtain ⟨size, c, hrun⟩ :
      ∃ size c, (decodePluginCall p ⟨k, p.paramsAt (entryAfter ea (k + 3))⟩).run
      ((Command.fresh ea).past (k + 4)) = .ok size c :=
    exists_decodePluginCall hlibrary hfunction hstays₀ hstays₁ hlength
  refine ⟨size, c, ?_⟩
  rw [analyseAt_eq_ok, run_analyse_of_callsPlugin (by rwa [Command.position_fresh]),
    Command.position_fresh]
  exact hrun

/-! ## Names -/

/-- Where library and function are kept, the call has its own name. -/
lemma pluginNameAt_of_denotes {n₀ n₁ : Int} (hlibrary : p.Denotes n₀ a₀ library)
    (hfunction : p.Denotes n₁ a₁ function) :
    p.pluginNameAt a₀ a₁ = .ok (ownName library function) := by
  obtain ⟨_, htext₀⟩ := hlibrary.textAt_eq
  obtain ⟨_, htext₁⟩ := hfunction.textAt_eq
  rw [Program.pluginNameAt, htext₀, htext₁]
  rfl

/-- A variable is written with a dollar sign. -/
lemma exists_varText (n : Int) : ∃ rest, Symbol.varText n = "$" ++ rest := by
  unfold Symbol.varText
  split
  · exact ⟨_, rfl⟩
  · split_ifs
    · exact ⟨_, rfl⟩
    · exact ⟨"R" ++ Text.decimal (n - 10), by rw [← String.append_assoc]; rfl⟩
    · refine ⟨"__var" ++ Text.decimal n ++ "__", ?_⟩
      rw [← String.append_assoc, ← String.append_assoc]
      rfl

/-- A single symbol is shown by its own text. -/
lemma textOf_singleton (s : Symbol) : Symbol.textOf [s] = s.text := by
  simp [Symbol.textOf, String.join]

/-- What is a number, or a variable, is not written like a string that is not there. -/
lemma textOf_ne_none (h : staysString symbols = false) : Symbol.textOf symbols ≠ "None" := by
  intro htext
  unfold staysString at h
  split at h
  · rename_i n
    obtain ⟨rest, hrest⟩ := exists_varText n
    rw [textOf_singleton, Symbol.text, hrest] at htext
    have hchars := congrArg String.toList htext
    simp at hchars
  · rename_i text
    rw [textOf_singleton, Symbol.text] at htext
    rw [htext] at h
    exact absurd h (by decide)
  · cases h

/-- Without a library there is no name. -/
lemma pluginNameAt_of_library (h : p.textAt a₀ = .ok none) (name : String) :
    p.pluginNameAt a₀ a₁ ≠ .ok name := by
  intro hname
  rw [Program.pluginNameAt, h] at hname
  cases htext : p.textAt a₁ with
  | error e =>
    rw [htext] at hname
    cases hname
  | ok text =>
    rw [htext] at hname
    cases hname

/-- Without a function the name is not that of a function which did not stay a string. -/
lemma pluginNameAt_of_function (h : p.textAt a₁ = .ok none) (hlost : staysString function = false)
    (hlibrary : p.Denotes n a₀ library) :
    p.pluginNameAt a₀ a₁ ≠ .ok (ownName library function) := by
  obtain ⟨_, htext⟩ := hlibrary.textAt_eq
  rw [Program.pluginNameAt, h, htext]
  intro hname
  have hsame : Text.Path.stem (Text.Path.baseName (Symbol.textOf library)) ++ "::" ++ "None" =
      ownName library function := Except.ok.inj hname
  rw [ownName, String.append_right_inj] at hsame
  exact textOf_ne_none hlost hsame.symm

/-- **When the call of a plugin is shown by its own names.** If its library and its function stay
strings, the call is decoded and shown by the base name of the library, without its extension, and
the name of the function. In general it is shown by the strings at the addresses that are kept, and
not at all if these give no name. If there is no string at the address of a string that was lost,
the names shown are the own ones only if both of them stay strings. -/
theorem plugin_calls_are_named_iff (hcalls : p.CallsPlugin ea k)
    (hlibrary : p.Denotes (p.callParam ea k 0) a₀ library)
    (hfunction : p.Denotes (p.callParam ea k 1) a₁ function) :
    (staysString library = true → staysString function = true →
        ∃ size c, analyseAt p ea = (.ok size, c) ∧ ShowsName p c (ownName library function)) ∧
      ∀ size c, analyseAt p ea = (.ok size, c) →
        (∀ name, ShowsName p c name ↔
          p.pluginNameAt (keptAddress p a₀ library) (keptAddress p a₁ function) = .ok name) ∧
        (∀ e, p.pluginNameAt (keptAddress p a₀ library) (keptAddress p a₁ function) = .error e →
          listing p c = ⟨[], .error e⟩) ∧
        ((staysString library = false → p.textAt (keptAddress p a₀ library) = .ok none) →
          (staysString function = false → p.textAt (keptAddress p a₁ function) = .ok none) →
          (ShowsName p c (ownName library function) ↔
            staysString library = true ∧ staysString function = true)) := by
  have hown : staysString library = true → staysString function = true →
      p.pluginNameAt (keptAddress p a₀ library) (keptAddress p a₁ function) =
        .ok (ownName library function) := by
    intro hstays₀ hstays₁
    rw [keptAddress_of_staysString hstays₀, keptAddress_of_staysString hstays₁]
    exact pluginNameAt_of_denotes hlibrary hfunction
  have hshows : ∀ {size c}, analyseAt p ea = (.ok size, c) → ∀ name, ShowsName p c name ↔
      p.pluginNameAt (keptAddress p a₀ library) (keptAddress p a₁ function) = .ok name := by
    intro size c hana name
    obtain ⟨hcall, haddress₀, haddress₁⟩ :=
      isPluginCall_of_callsPlugin hcalls hana hlibrary hfunction
    rw [showsName_iff hcall, haddress₀, haddress₁]
  refine ⟨fun hstays₀ hstays₁ => ?_, fun size c hana =>
    ⟨hshows hana, fun e herror => ?_, fun hlost₀ hlost₁ => ?_⟩⟩
  · obtain ⟨size, c, hana⟩ := exists_analyseAt hcalls hlibrary hfunction hstays₀ hstays₁
    exact ⟨size, c, hana, (hshows hana _).2 (hown hstays₀ hstays₁)⟩
  · obtain ⟨hcall, haddress₀, haddress₁⟩ :=
      isPluginCall_of_callsPlugin hcalls hana hlibrary hfunction
    exact listing_eq_error hcall (by rw [haddress₀, haddress₁, herror])
  · rw [hshows hana]
    refine ⟨fun hname => ?_, fun hstays => hown hstays.1 hstays.2⟩
    have hstays₀ : staysString library = true := by
      by_contra hlost
      rw [Bool.not_eq_true] at hlost
      exact pluginNameAt_of_library (hlost₀ hlost) _ hname
    refine ⟨hstays₀, ?_⟩
    rw [keptAddress_of_staysString hstays₀] at hname
    by_contra hlost
    rw [Bool.not_eq_true] at hlost
    exact pluginNameAt_of_function (hlost₁ hlost) hlost hlibrary hname

end Calls

/-- The bytes of an entry. -/
def entryBytes (opcode : UInt32) (first second : UInt32) : Bytes :=
  [opcode, first, second, 0, 0, 0, 0].flatMap Bytes.ofWord

/-- A script with one call of a plugin without arguments. The library is `$PLUGINSDIR\p.dll`, and
the function has a name of two bytes. -/
def namedScript (first second : UInt8) : Program where
  version := .text "3"
  segments := [("ENTRIES", ⟨16, 128⟩), ("STRINGS", ⟨128, 142⟩), ("VARS", ⟨142, 182⟩)]
  memory := ((((Memory.write {} 128
      [0, 3, 0x9a, 0x80, 0x5c, 0x70, 0x2e, 0x64, 0x6c, 0x6c, 0, first, second, 0]).write
    16 (entryBytes 5 9 0)).write 44 (entryBytes 0x14 0 1)).write
    72 (entryBytes 0x0d 13 1)).write 100 (entryBytes 0x2c 1 11)
  names := []

/-- The library of the script. -/
def namedLibrary : List Symbol := [.var 26, .literal "\\p.dll"]

/-- The script calls a plugin without arguments. -/
lemma callsPlugin_namedScript (first second : UInt8) :
    (namedScript first second).CallsPlugin 16 0 where
  call := rfl
  extractFile := rfl
  setFlag := rfl
  args := ⟨fun j hj => absurd hj (Nat.not_lt_zero j), rfl⟩

/-- A call whose function is named by letters is shown by its own name. -/
theorem named_of_namedScript :
    ∃ size c, analyseAt (namedScript 0x47 0x6f) 16 = (.ok size, c) ∧
      ShowsName (namedScript 0x47 0x6f) c "p::Go" := by
  have hlibrary :
      (namedScript 0x47 0x6f).Denotes ((namedScript 0x47 0x6f).callParam 16 0 0) 129 namedLibrary :=
    ⟨rfl, ⟨_, rfl, rfl⟩, ⟨10, rfl⟩⟩
  have hfunction : (namedScript 0x47 0x6f).Denotes ((namedScript 0x47 0x6f).callParam 16 0 1) 139
      [.literal "Go"] := ⟨rfl, ⟨_, rfl, rfl⟩, ⟨3, rfl⟩⟩
  have hname : ownName namedLibrary [.literal "Go"] = "p::Go" := by decide
  rw [← hname]
  exact (plugin_calls_are_named_iff (callsPlugin_namedScript _ _) hlibrary hfunction).1 rfl
    (by decide)

/-- **A function without its name**: the name of the function is a number, and the call is shown
without it. -/
theorem number_becomes_none :
    (namedScript 0x34 0x32).CallsPlugin 16 0 ∧
      (namedScript 0x34 0x32).Denotes ((namedScript 0x34 0x32).callParam 16 0 0) 129 namedLibrary ∧
      (namedScript 0x34 0x32).Denotes ((namedScript 0x34 0x32).callParam 16 0 1) 139
        [.literal "42"] ∧
      ownName namedLibrary [.literal "42"] = "p::42" ∧
      ∃ c, analyseAt (namedScript 0x34 0x32) 16 = (.ok 112, c) ∧
        ShowsName (namedScript 0x34 0x32) c "p::None" ∧
        ¬ ShowsName (namedScript 0x34 0x32) c "p::42" := by
  have hcalls := callsPlugin_namedScript 0x34 0x32
  have hlibrary :
      (namedScript 0x34 0x32).Denotes ((namedScript 0x34 0x32).callParam 16 0 0) 129 namedLibrary :=
    ⟨rfl, ⟨_, rfl, rfl⟩, ⟨10, rfl⟩⟩
  have hfunction : (namedScript 0x34 0x32).Denotes ((namedScript 0x34 0x32).callParam 16 0 1) 139
      [.literal "42"] := ⟨rfl, ⟨_, rfl, rfl⟩, ⟨3, rfl⟩⟩
  obtain ⟨c, hana⟩ : ∃ c, analyseAt (namedScript 0x34 0x32) 16 = (.ok 112, c) := by
    refine ⟨_, analyseAt_eq_of_fst ?_⟩
    rw [analyseAt, run_analyse_of_callsPlugin hcalls]
    rfl
  obtain ⟨hcall, haddress₀, haddress₁⟩ := isPluginCall_of_callsPlugin hcalls hana hlibrary hfunction
  have hname : (namedScript 0x34 0x32).pluginNameAt (operandAddress c 0) (operandAddress c 1) =
      .ok "p::None" := by
    rw [haddress₀, haddress₁]
    decide
  refine ⟨hcalls, hlibrary, hfunction, by decide, c, hana, (showsName_iff hcall).2 hname, ?_⟩
  rw [showsName_iff hcall, hname]
  decide

end Nsis.Script
