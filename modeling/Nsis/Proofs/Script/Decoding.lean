import Mathlib.Data.List.Basic
import Nsis.Script.Analyse

/-!
# What decoding leaves of a command

Decoding fills in the operands of a command one after the other. Each computation that succeeds
changes one operand, keeps its place and leaves the rest of the command alone, so that what is known
about one operand is known about all of them at the end. An operand is an address to jump to exactly
if it stands for a jump that is not left out.

## Main definitions

* `Nsis.Script.Filled` — one operand of a command was filled in.
* `Nsis.Script.Operand.Follows` — an operand follows from a letter of the format and a parameter.
* `Nsis.Script.FilledFrom` — the operands of a command were filled in from a place on.
* `Nsis.Script.entryAfter` — the addresses of entries.
* `Nsis.Script.Command.position`, `Nsis.Script.Command.past` — the cursor of a command.
* `Nsis.Script.Command.instruction` — the instruction of a command.
* `Nsis.Script.Command.Jump` — the jump parameters of a command.
* `Nsis.Script.Decoded` — the commands that decoding leaves.

## Main results

* `Nsis.Script.filledFrom_of_decodeOperands` — parameters are decoded one by one.
* `Nsis.Script.Command.nextEntry` — reading an entry.
* `Nsis.Script.decoded_of_decodeEntry` — which operands are jumps, and when control does not go on.
* `Nsis.Script.isPluginCall_of_decodePluginCall` — what decoding leaves of the call of a plugin.
-/

namespace Nsis.Script

/-! ## Computations on a command -/

namespace Analysis

variable {α β : Type} {c c' : Command}

/-- Two computations one after the other succeed if each of them does, the second one on what the
first one left. -/
lemma bind_eq_ok {x : Analysis α} {f : α → Analysis β} {b : β} :
    (x >>= f).run c = .ok b c' ↔ ∃ a d, x.run c = .ok a d ∧ (f a).run d = .ok b c' := by
  show EStateM.bind x f c = _ ↔ ∃ a d, x c = .ok a d ∧ f a d = _
  unfold EStateM.bind
  cases x c with
  | ok a d => simp
  | error e d => simp

/-- Behind a value, an analysis goes on with the command that is left. -/
lemma run_bind {x : Analysis α} {a : α} (h : x.run c = .ok a c') (f : α → Analysis β) :
    (x >>= f).run c = (f a).run c' := by
  show EStateM.bind x f c = _
  have hx : x c = .ok a c' := h
  rw [EStateM.bind, hx]
  rfl

/-- A value is given, and the command is left as it is. -/
lemma pure_eq_ok {a b : α} : (pure a : Analysis α).run c = .ok b c' ↔ a = b ∧ c = c' := by
  show EStateM.Result.ok a c = _ ↔ _
  rw [EStateM.Result.ok.injEq]

/-- A result from outside is given, and the command is left as it is. -/
lemma ofExcept_eq_ok {r : Except Fault α} {a : α} :
    (ofExcept r).run c = .ok a c' ↔ r = .ok a ∧ c = c' := by
  cases r with
  | error e =>
    show EStateM.Result.error e c = _ ↔ _
    simp
  | ok b =>
    rw [ofExcept, pure_eq_ok, Except.ok.injEq]

/-- A change is made to the command. -/
lemma modify_eq_ok {f : Command → Command} {u : PUnit} :
    (modify f : Analysis PUnit).run c = .ok u c' ↔ c' = f c := by
  show EStateM.Result.ok PUnit.unit (f c) = _ ↔ _
  rw [EStateM.Result.ok.injEq]
  exact ⟨fun h => h.2.symm, fun h => ⟨rfl, h.symm⟩⟩

/-- The command is given as it is. -/
lemma get_eq_ok {d : Command} : (get : Analysis Command).run c = .ok d c' ↔ c = d ∧ c = c' := by
  show EStateM.Result.ok c c = _ ↔ _
  rw [EStateM.Result.ok.injEq]

end Analysis

/-- An operand that is there is changed. -/
lemma changeOperand_eq_ok {i : Nat} {f : Operand → Operand} {c c' : Command} {u : Unit} :
    (changeOperand i f).run c = .ok u c' ↔
      ∃ o, c.operands[i]? = some o ∧ c' = { c with operands := c.operands.set i (f o) } := by
  simp only [changeOperand, Analysis.bind_eq_ok, Analysis.get_eq_ok]
  constructor
  · rintro ⟨d, d', ⟨rfl, rfl⟩, h⟩
    split at h
    · rename_i o ho
      exact ⟨o, ho, (EStateM.Result.ok.inj h).2.symm⟩
    · cases h
  · rintro ⟨o, ho, rfl⟩
    refine ⟨c, c, ⟨rfl, rfl⟩, ?_⟩
    simp only [ho]
    rfl

/-! ## Filling in one operand -/

/-- Two commands differ at most in operand `i`, which keeps its place, and of which `P` holds
now. -/
def Filled (i : Nat) (P : Operand → Prop) (c c' : Command) : Prop :=
  ∃ o o', c.operands[i]? = some o ∧ c' = { c with operands := c.operands.set i o' } ∧
    o'.index = o.index ∧ P o'

namespace Filled

variable {i : Nat} {P Q : Operand → Prop} {c c' c'' : Command}

/-- Changing an operand fills its place. -/
lemma of_changeOperand {f : Operand → Operand} {u : Unit} (h : (changeOperand i f).run c = .ok u c')
    (hindex : ∀ o, (f o).index = o.index) (hP : ∀ o, P (f o)) : Filled i P c c' := by
  obtain ⟨o, ho, rfl⟩ := changeOperand_eq_ok.1 h
  exact ⟨o, f o, ho, rfl, hindex o, hP o⟩

/-- A place is filled with less if it is filled with more. -/
lemma imp (h : Filled i P c c') (hPQ : ∀ o, P o → Q o) : Filled i Q c c' := by
  obtain ⟨o, o', ho, hc', hindex, hP⟩ := h
  exact ⟨o, o', ho, hc', hindex, hPQ o' hP⟩

/-- The operand after a change to one that was filled in. -/
lemma change {f : Operand → Operand} {u : Unit} (h : Filled i P c c')
    (h' : (changeOperand i f).run c' = .ok u c'') (hindex : ∀ o, (f o).index = o.index)
    (hQ : ∀ o, P o → Q (f o)) : Filled i Q c c'' := by
  obtain ⟨o, o', ho, rfl, hsame, hP⟩ := h
  obtain ⟨d, hd, rfl⟩ := changeOperand_eq_ok.1 h'
  have hlt : i < c.operands.length := (List.getElem?_eq_some_iff.1 ho).1
  obtain rfl : o' = d := by simpa [hlt] using hd
  refine ⟨o, f o', ho, ?_, (hindex o').trans hsame, hQ o' hP⟩
  simp only [List.set_set]

/-- At a place that is filled stands such an operand. -/
lemma getElem?_self (h : Filled i P c c') : ∃ o, c'.operands[i]? = some o ∧ P o := by
  obtain ⟨o, o', ho, rfl, -, hP⟩ := h
  have hlt : i < c.operands.length := (List.getElem?_eq_some_iff.1 ho).1
  exact ⟨o', by simp [hlt], hP⟩

/-- Filling a place leaves the others as they are. -/
lemma getElem?_ne (h : Filled i P c c') {k : Nat} (hk : k ≠ i) :
    c'.operands[k]? = c.operands[k]? := by
  obtain ⟨o, o', ho, rfl, -⟩ := h
  exact List.getElem?_set_ne hk.symm

/-- Filling a place changes nothing but the operands. -/
lemma rest (h : Filled i P c c') : c' = { c with operands := c'.operands } := by
  obtain ⟨o, o', -, rfl, -⟩ := h
  rfl

/-- What holds of all operands and of those that fill a place holds of all operands afterwards. -/
lemma forall_mem (h : Filled i P c c') (hc : ∀ o ∈ c.operands, Q o) (hPQ : ∀ o, P o → Q o) :
    ∀ o ∈ c'.operands, Q o := by
  intro o ho
  obtain ⟨_, o', -, rfl, -, hP⟩ := h
  rcases List.mem_or_eq_of_mem_set ho with hmem | rfl
  · exact hc o hmem
  · exact hPQ o hP

/-- Filling a place leaves the numbers of the operands as they are. -/
lemma map_index (h : Filled i P c c') : c'.operands.map (·.index) = c.operands.map (·.index) := by
  obtain ⟨o, o', ho, rfl, hindex, -⟩ := h
  have hplace : (c.operands.map (·.index))[i]? = some o'.index := by
    rw [List.getElem?_map, ho, Option.map_some, hindex]
  obtain ⟨hlt, hget⟩ := List.getElem?_eq_some_iff.1 hplace
  rw [List.map_set, ← hget, List.set_getElem_self hlt]

/-- A computation that fills in an operand and has a fixed answer. -/
lemma of_bind_pure {x : Analysis Unit} {r b : Bool}
    (h : (x >>= fun _ => pure r : Analysis Bool).run c = .ok b c'')
    (hx : ∀ {u : Unit} {d : Command}, x.run c = .ok u d → Filled i P c d) :
    Filled i P c c'' ∧ b = r := by
  obtain ⟨_, d, hd, hr⟩ := Analysis.bind_eq_ok.1 h
  obtain ⟨rfl, rfl⟩ := Analysis.pure_eq_ok.1 hr
  exact ⟨hx hd, rfl⟩

end Filled

section Operands

variable {p : Program} {i : Nat} {n : Int} {c c' : Command}

/-- Setting a number fills the place with this number. -/
lemma filled_of_setNumber {u : Unit} (h : (setNumber i n).run c = .ok u c') :
    Filled i (fun o => o.kind = .immediate ∧ o.type = .dword ∧ o.value = n) c c' :=
  .of_changeOperand h (fun _ => rfl) fun _ => ⟨rfl, rfl, rfl⟩

/-- A variable is no address to jump to. -/
lemma filled_of_setVar {u : Unit} (h : (setVar p i n).run c = .ok u c') :
    Filled i (fun o => o.kind ≠ .near) c c' := by
  unfold setVar at h
  split at h
  · exact .of_changeOperand h (fun _ => rfl) fun _ => by simp
  · split at h
    · exact (filled_of_setNumber h).imp fun o ho => by simp [ho.1]
    · obtain ⟨_, d, hkind, h⟩ := Analysis.bind_eq_ok.1 h
      obtain ⟨address, d', haddress, h⟩ := Analysis.bind_eq_ok.1 h
      obtain ⟨-, rfl⟩ := Analysis.ofExcept_eq_ok.1 haddress
      have hmemory : Filled i (fun o => o.kind = .memory) c d :=
        .of_changeOperand hkind (fun _ => rfl) fun _ => rfl
      exact hmemory.change h (fun _ => rfl) fun o ho => by simp [ho]

/-- A string is no address to jump to. -/
lemma filled_of_setString {u : Unit} (h : (setString p i n).run c = .ok u c') :
    Filled i (fun o => o.kind ≠ .near) c c' := by
  have hplain : ∀ {address : Int} {u : Unit} {d d' : Command},
      (setStringAt i address).run d = .ok u d' → Filled i (fun o => o.kind ≠ .near) d d' :=
    fun h => .of_changeOperand h (fun _ => rfl) fun _ => by simp
  obtain ⟨address, d, haddress, h⟩ := Analysis.bind_eq_ok.1 h
  obtain ⟨symbols, d', hsymbols, h⟩ := Analysis.bind_eq_ok.1 h
  obtain ⟨-, rfl⟩ := Analysis.ofExcept_eq_ok.1 haddress
  obtain ⟨-, rfl⟩ := Analysis.ofExcept_eq_ok.1 hsymbols
  split at h
  · exact filled_of_setVar h
  · split at h
    · exact (filled_of_setNumber h).imp fun o ho => by simp [ho.1]
    · exact hplain h
  · exact hplain h

/-- Setting a jump fills the place with the address of the code. -/
lemma filled_of_setJump {u : Unit} (h : (setJump p i n).run c = .ok u c') :
    Filled i (fun o => o.kind = .near ∧ p.codeAddress (n - 1) = .ok o.address) c c' := by
  obtain ⟨_, d, hkind, h⟩ := Analysis.bind_eq_ok.1 h
  obtain ⟨address, d', haddress, h⟩ := Analysis.bind_eq_ok.1 h
  obtain ⟨hcode, rfl⟩ := Analysis.ofExcept_eq_ok.1 haddress
  have hnear : Filled i (fun o => o.kind = .near) c d :=
    .of_changeOperand hkind (fun _ => rfl) fun _ => rfl
  exact hnear.change h (fun _ => rfl) fun o ho => ⟨ho, hcode⟩

end Operands

/-- An operand follows from a letter of the format and a parameter: it is an address to jump to
exactly if the letter says so and the parameter is an entry, and then it is the address of that
entry. -/
structure Operand.Follows (p : Program) (letter : Char) (n : Int) (o : Operand) : Prop where
  near_iff : o.kind = .near ↔ letter = 'J' ∧ 0 < n
  address : o.kind = .near → p.codeAddress (n - 1) = .ok o.address

/-- An operand that is no address to jump to follows a parameter that is no jump. -/
lemma Operand.follows_of_not_near {p : Program} {letter : Char} {n : Int} {o : Operand}
    (h : o.kind ≠ .near) (hletter : ¬ (letter = 'J' ∧ 0 < n)) : o.Follows p letter n :=
  ⟨⟨fun hnear => absurd hnear h, fun hjump => absurd hjump hletter⟩, fun hnear => absurd hnear h⟩

/-- An operand that no jump was decoded into. -/
lemma plain_of_filled {p : Program} {i : Nat} {letter : Char} {n : Int} {c c' : Command} {b : Bool}
    (h : Filled i (·.kind ≠ .near) c c' ∧ b = false) (hletter : letter ≠ 'J') :
    Filled i (·.Follows p letter n) c c' ∧ (b = true ↔ letter = 'J' ∧ n ≤ 0) := by
  refine ⟨h.1.imp fun o ho => Operand.follows_of_not_near ho fun hjump => hletter hjump.1, ?_⟩
  simp [h.2, hletter]

/-- **Decoding one parameter** fills in one operand. The answer is whether a jump was left out. -/
lemma filled_of_decodeOperand {p : Program} {i : Nat} {letter : Char} {n : Int} {c c' : Command}
    {b : Bool} (h : (decodeOperand p i letter n).run c = .ok b c') :
    Filled i (·.Follows p letter n) c c' ∧ (b = true ↔ letter = 'J' ∧ n ≤ 0) := by
  unfold decodeOperand at h
  by_cases hi : Command.operandCount ≤ i
  · simp only [if_pos hi] at h
    obtain ⟨_, _, hthrow, -⟩ := Analysis.bind_eq_ok.1 h
    cases hthrow
  simp only [if_neg hi] at h
  have hnumber : ∀ {m : Int} {u : Unit} {d : Command}, (setNumber i m).run c = .ok u d →
      Filled i (·.kind ≠ .near) c d :=
    fun h => (filled_of_setNumber h).imp fun o ho => by simp [ho.1]
  split at h
  · exact plain_of_filled (Filled.of_bind_pure h hnumber) (by decide)
  · exact plain_of_filled (Filled.of_bind_pure h filled_of_setString) (by decide)
  · exact plain_of_filled (Filled.of_bind_pure h filled_of_setVar) (by decide)
  · -- a jump is left out if the parameter is no entry
    split at h
    · rename_i hpos
      obtain ⟨hfilled, rfl⟩ := Filled.of_bind_pure h filled_of_setJump
      refine ⟨hfilled.imp fun o ho => ⟨by simp [ho.1, hpos], fun _ => ho.2⟩, ?_⟩
      simp [hpos]
    · rename_i hpos
      obtain ⟨hfilled, rfl⟩ := Filled.of_bind_pure h hnumber
      refine ⟨hfilled.imp fun o ho => Operand.follows_of_not_near ho fun hjump => hpos hjump.2, ?_⟩
      simpa using hpos
  · -- an operator is a number with a mark
    obtain ⟨_, d, hset, h⟩ := Analysis.bind_eq_ok.1 h
    obtain ⟨_, d', hmark, h⟩ := Analysis.bind_eq_ok.1 h
    obtain ⟨rfl, rfl⟩ := Analysis.pure_eq_ok.1 h
    exact plain_of_filled ⟨(hnumber hset).change hmark (fun _ => rfl) fun _ ho => ho, rfl⟩
      (by decide)
  · exact plain_of_filled (Filled.of_bind_pure h hnumber) (by decide)
  · cases h

/-! ## Filling in the operands of a format -/

/-- The operands of a command were filled in from operand `i` on, one for each letter of the format
that has a parameter. The others, and all else, are as before. -/
structure FilledFrom (p : Program) (i : Nat) (letters : List Char) (params : List Int)
    (c c' : Command) : Prop where
  rest : c' = { c with operands := c'.operands }
  map_index : c'.operands.map (·.index) = c.operands.map (·.index)
  before : ∀ k < i, c'.operands[k]? = c.operands[k]?
  behind : ∀ k, i + min letters.length params.length ≤ k → c'.operands[k]? = c.operands[k]?
  follows : ∀ j letter n, letters[j]? = some letter → params[j]? = some n →
    ∃ o, c'.operands[i + j]? = some o ∧ o.Follows p letter n

/-- Nothing is filled in without letters, or without parameters. -/
lemma FilledFrom.refl {p : Program} {i : Nat} {letters : List Char} {params : List Int}
    (c : Command) (h : letters = [] ∨ params = []) : FilledFrom p i letters params c c where
  rest := rfl
  map_index := rfl
  before _ _ := rfl
  behind _ _ := rfl
  follows j letter n hletter hparam := by
    rcases h with rfl | rfl
    · simp at hletter
    · simp at hparam

/-- Filling a place and then those behind it fills all of them. -/
lemma FilledFrom.cons {p : Program} {i : Nat} {letter : Char} {n : Int} {letters : List Char}
    {params : List Int} {c d c' : Command} (h : Filled i (·.Follows p letter n) c d)
    (h' : FilledFrom p (i + 1) letters params d c') :
    FilledFrom p i (letter :: letters) (n :: params) c c' where
  rest := by rw [h'.rest, h.rest]
  map_index := h'.map_index.trans h.map_index
  before k hk := (h'.before k (by omega)).trans (h.getElem?_ne (by omega))
  behind k hk := by
    simp only [List.length_cons] at hk
    exact (h'.behind k (by omega)).trans (h.getElem?_ne (by omega))
  follows j letter' n' hletter hparam := by
    cases j with
    | zero =>
      obtain ⟨o, ho, hfollows⟩ := h.getElem?_self
      cases hletter
      cases hparam
      exact ⟨o, (h'.before i (by omega)).trans ho, hfollows⟩
    | succ j =>
      rw [List.getElem?_cons_succ] at hletter hparam
      rw [show i + (j + 1) = i + 1 + j by omega]
      exact h'.follows j letter' n' hletter hparam

/-- **Parameters are decoded one by one.** The answer is whether one of them is a jump that was left
out.

**Proof sketch.** Induction over the format. The operand of its first letter is filled in, and the
operands of the other letters stand behind it. -/
lemma filledFrom_of_decodeOperands {p : Program} {letters : List Char} {params : List Int} {i : Nat}
    {c c' : Command} {b : Bool} (h : (decodeOperands p i letters params).run c = .ok b c') :
    FilledFrom p i letters params c c' ∧
      (b = true ↔ ∃ (j : Nat) (n : Int), letters[j]? = some 'J' ∧ params[j]? = some n ∧ n ≤ 0) := by
  induction letters generalizing i params c b with
  | nil =>
    obtain ⟨rfl, rfl⟩ := Analysis.pure_eq_ok.1 h
    exact ⟨.refl c (.inl rfl), by simp⟩
  | cons letter letters ih =>
    cases params with
    | nil =>
      obtain ⟨rfl, rfl⟩ := Analysis.pure_eq_ok.1 h
      exact ⟨.refl c (.inr rfl), by simp⟩
    | cons n params =>
      obtain ⟨here, d, hhere, h⟩ := Analysis.bind_eq_ok.1 h
      obtain ⟨later, d', hlater, h⟩ := Analysis.bind_eq_ok.1 h
      obtain ⟨rfl, rfl⟩ := Analysis.pure_eq_ok.1 h
      obtain ⟨hfilled, hhere⟩ := filled_of_decodeOperand hhere
      obtain ⟨hrest, hlater⟩ := ih hlater
      refine ⟨hrest.cons hfilled, ?_⟩
      rw [Bool.or_eq_true, hhere, hlater]
      constructor
      · rintro (⟨rfl, hn⟩ | ⟨j, m, hj, hm, hle⟩)
        · exact ⟨0, n, rfl, rfl, hn⟩
        · exact ⟨j + 1, m, hj, hm, hle⟩
      · rintro ⟨j, m, hj, hm, hle⟩
        cases j with
        | zero =>
          cases hj
          cases hm
          exact .inl ⟨rfl, hle⟩
        | succ j => exact .inr ⟨j, m, hj, hm, hle⟩

/-! ## The operands of a new command -/

/-- Parameter `i` is a jump by the format: entry `n`, counted from one, or none if `n` is zero. -/
def JumpAt (format : List Char) (params : List Int) (i : Nat) (n : Int) : Prop :=
  format[i]? = some 'J' ∧ params[i]? = some n

/-- Operands follow from a format and parameters: those are addresses to jump to that stand for a
jump that is not left out, and each of them is the address of the entry that its parameter
counts. -/
structure OperandsFollow (p : Program) (format : List Char) (params : List Int)
    (os : List Operand) : Prop where
  map_index : os.map (·.index) = Command.freshOperands.map (·.index)
  near_iff : ∀ i o, os[i]? = some o → (o.kind = .near ↔ ∃ n, JumpAt format params i n ∧ 0 < n)
  address : ∀ i o n, os[i]? = some o → JumpAt format params i n → 0 < n →
    p.codeAddress (n - 1) = .ok o.address

namespace OperandsFollow

variable {p : Program} {format : List Char} {params : List Int} {os : List Operand}

/-- There are always as many operands. -/
lemma length_eq (h : OperandsFollow p format params os) : os.length = Command.operandCount := by
  have hlength := congrArg List.length h.map_index
  simpa [Command.freshOperands] using hlength

/-- Each operand has the number of its place. -/
lemma index_eq (h : OperandsFollow p format params os) {i : Nat} {o : Operand}
    (ho : os[i]? = some o) : o.index = i := by
  have hindex := congrArg (·[i]?) h.map_index
  obtain ⟨hlt, -⟩ := List.getElem?_eq_some_iff.1 ho
  rw [h.length_eq] at hlt
  simpa [Command.freshOperands, ho, hlt] using hindex

/-- Without jumps in the format, operands follow that are no addresses to jump to. -/
lemma of_not_near (hindex : os.map (·.index) = Command.freshOperands.map (·.index))
    (hformat : 'J' ∉ format) (hos : ∀ o ∈ os, o.kind ≠ .near) :
    OperandsFollow p format params os := by
  have hjump : ∀ i n, ¬ JumpAt format params i n := fun i n h => hformat (List.mem_of_getElem? h.1)
  refine ⟨hindex, fun i o ho => ?_, fun i o n _ h => absurd h (hjump i n)⟩
  simp [hos o (List.mem_of_getElem? ho), hjump]

end OperandsFollow

/-- An operand that is not filled yet is void. -/
lemma kind_of_mem_freshOperands {o : Operand} (h : o ∈ Command.freshOperands) : o.kind = .void := by
  obtain ⟨i, -, rfl⟩ := List.mem_map.1 h
  rfl

/-- The operands of a new command that were filled in follow from the format and the parameters. -/
lemma FilledFrom.operandsFollow {p : Program} {format : List Char} {params : List Int}
    {c c' : Command} (h : FilledFrom p 0 format params c c')
    (hfresh : c.operands = Command.freshOperands) : OperandsFollow p format params c'.operands := by
  have hfollows : ∀ i o n, c'.operands[i]? = some o → JumpAt format params i n →
      o.Follows p 'J' n := by
    intro i o n ho hjump
    obtain ⟨o', ho', hfollows⟩ := h.follows i 'J' n hjump.1 hjump.2
    rw [Nat.zero_add, ho, Option.some.injEq] at ho'
    exact ho' ▸ hfollows
  refine ⟨hfresh ▸ h.map_index, fun i o ho => ⟨fun hnear => ?_, ?_⟩, fun i o n ho hjump hpos => ?_⟩
  · by_cases hi : i < min format.length params.length
    · -- the operand was filled in by a letter and a parameter
      obtain ⟨hformat, hparams⟩ := Nat.lt_min.1 hi
      obtain ⟨o', ho', hletter⟩ :=
        h.follows i _ _ (List.getElem?_eq_getElem hformat) (List.getElem?_eq_getElem hparams)
      rw [Nat.zero_add, ho, Option.some.injEq] at ho'
      obtain ⟨hJ, hpos⟩ := (ho' ▸ hletter.near_iff).1 hnear
      exact ⟨_,
        ⟨by rw [List.getElem?_eq_getElem hformat, hJ], List.getElem?_eq_getElem hparams⟩, hpos⟩
    · -- the operand is a new one
      rw [h.behind i (by omega), hfresh] at ho
      rw [kind_of_mem_freshOperands (List.mem_of_getElem? ho)] at hnear
      cases hnear
  · rintro ⟨n, hjump, hpos⟩
    exact (hfollows i o n ho hjump).near_iff.2 ⟨rfl, hpos⟩
  · have hjumps := hfollows i o n ho hjump
    exact hjumps.address (hjumps.near_iff.2 ⟨rfl, hpos⟩)

/-- Without a format, nothing is filled in. -/
lemma operandsFollow_of_void {p : Program} {params : List Int} {c c' : Command}
    (h : Filled 0 (·.kind = .void) c c') (hfresh : c.operands = Command.freshOperands) :
    OperandsFollow p [] params c'.operands := by
  have hkind : ∀ o ∈ c'.operands, o.kind = .void :=
    h.forall_mem (fun o ho => kind_of_mem_freshOperands (hfresh ▸ ho)) fun _ ho => ho
  refine .of_not_near (hfresh ▸ h.map_index) List.not_mem_nil fun o ho => ?_
  simp [hkind o ho]

/-- **Decoding by a format** fills in operands that follow from it. The command is marked where
control does not go on: if it is to be checked, has jumps, and none of them is left out. -/
lemma operandsFollow_of_decode {p : Program} {format : List Char} {params : List Int}
    {c c' : Command} {u : Unit} (h : (decode p format params).run c = .ok u c')
    (hfresh : c.operands = Command.freshOperands) :
    OperandsFollow p format params c'.operands ∧
      ∃ marks, c' = { c with marks := marks, operands := c'.operands } ∧
      ((marks = Bits.set c.marks CommandMark.noFlow ∧ 'J' ∈ format ∧
        Bits.isSet c.marks CommandMark.checksFlow = true ∧
          ∀ i n, JumpAt format params i n → 0 < n) ∨
        (marks = c.marks ∧ ('J' ∈ format → Bits.isSet c.marks CommandMark.checksFlow = true →
          ∃ i n, JumpAt format params i n ∧ n ≤ 0))) := by
  unfold decode at h
  split at h
  · rename_i hempty
    obtain rfl := List.isEmpty_iff.1 hempty
    have hvoid : Filled 0 (·.kind = .void) c c' := .of_changeOperand h (fun _ => rfl) fun _ => rfl
    exact ⟨operandsFollow_of_void hvoid hfresh, c.marks, hvoid.rest, .inr ⟨rfl, by simp⟩⟩
  · obtain ⟨d, d', hget, h⟩ := Analysis.bind_eq_ok.1 h
    obtain ⟨rfl, rfl⟩ := Analysis.get_eq_ok.1 hget
    obtain ⟨leftOut, d, hoperands, h⟩ := Analysis.bind_eq_ok.1 h
    obtain ⟨hfilled, hleftOut⟩ := filledFrom_of_decodeOperands hoperands
    have hfollow := hfilled.operandsFollow hfresh
    have hrest := hfilled.rest
    split at h
    · rename_i hchecks
      simp only [Bool.and_eq_true, List.contains_iff_mem, Bool.not_eq_true'] at hchecks
      obtain ⟨⟨hJ, hmark⟩, hnone⟩ := hchecks
      have hc' := Analysis.modify_eq_ok.1 h
      refine ⟨by rw [hc']; exact hfollow, Bits.set c.marks CommandMark.noFlow, ?_,
        .inl ⟨rfl, hJ, hmark, ?_⟩⟩
      · rw [hc', hrest]
      · intro i n hjump
        by_contra hn
        rw [hnone] at hleftOut
        exact absurd (hleftOut.2 ⟨i, n, hjump.1, hjump.2, by omega⟩) (by simp)
    · rename_i hchecks
      obtain ⟨-, rfl⟩ := Analysis.pure_eq_ok.1 h
      refine ⟨hfollow, c.marks, hrest, .inr ⟨rfl, fun hJ hmark => ?_⟩⟩
      have hleft : leftOut = true := by simpa [hJ, hmark] using hchecks
      obtain ⟨i, n, hi, hn, hle⟩ := hleftOut.1 hleft
      exact ⟨i, n, ⟨hi, hn⟩, hle⟩

/-! ## Entries

Entries are read through the cursor of a command, one word after the other. -/

namespace Program

/-- The opcode of the entry at an address. -/
def opcodeAt (p : Program) (address : Int) : Nat :=
  p.memory.dword address

/-- Parameter `i` of the entry at an address. -/
def paramAt (p : Program) (address : Int) (i : Nat) : Int :=
  p.memory.dword (address + 4 * (i + 1))

/-- The parameters of the entry at an address. -/
def paramsAt (p : Program) (address : Int) : List Int :=
  (List.range 6).map (p.paramAt address)

end Program

/-- The address of entry `k` behind the one at an address. -/
def entryAfter (address : Int) (k : Nat) : Int :=
  address + Entry.offsetOf k

/-- No entry further is the same address. -/
lemma entryAfter_zero (address : Int) : entryAfter address 0 = address := by
  simp [entryAfter, Entry.offsetOf]

/-- Entries further and further on add up. -/
lemma entryAfter_entryAfter (address : Int) (j k : Nat) :
    entryAfter (entryAfter address j) k = entryAfter address (j + k) := by
  simp only [entryAfter, Entry.offsetOf, Entry.size]
  omega

namespace Command

/-- Where the next word of a command is read. -/
def position (c : Command) : Int :=
  c.address + c.size

/-- The command after `k` more entries were read. -/
def past (c : Command) (k : Nat) : Command :=
  { c with size := c.size + Entry.offsetOf k }

/-- A fresh command stands at its own address. -/
lemma position_fresh (ea : Int) : (fresh ea).position = ea := Int.add_zero ea

/-- A command past some entries stands behind them. -/
lemma position_past (c : Command) (k : Nat) : (c.past k).position = entryAfter c.position k := by
  simp only [past, position, entryAfter]
  omega

/-- Passing entries twice adds up. -/
lemma past_past (c : Command) (j k : Nat) : (c.past j).past k = c.past (j + k) := by
  simp only [past, Entry.offsetOf, Entry.size, mk.injEq, and_true, true_and]
  omega

/-- The next words are those in memory from the position on. -/
lemma fst_nextWords (p : Program) (n : Nat) (c : Command) :
    (c.nextWords p n).1 = (List.range n).map fun i : Nat =>
      (p.memory.dword (c.position + 4 * i) : Int) := by
  induction n generalizing c with
  | zero => rfl
  | succ n ih =>
    simp only [nextWords, nextWord, ih, position, List.range_succ_eq_map, List.map_cons,
      List.map_map]
    congr 1
    · simp
    · refine List.map_congr_left fun i _ => ?_
      simp only [Function.comp_apply]
      congr 2
      omega

/-- **Reading an entry** gives its opcode and its parameters, and moves the cursor behind it. -/
lemma nextEntry (p : Program) (c : Command) :
    (c.nextWord p).1 = p.opcodeAt c.position ∧
      (c.nextWord p).2.nextParams p = (p.paramsAt c.position, c.past 1) := by
  refine ⟨rfl, Prod.ext ?_ ?_⟩
  · simp only [nextParams, fst_nextWords, Program.paramsAt]
    refine List.map_congr_left fun i _ => ?_
    simp only [nextWord, position, Program.paramAt]
    congr 2
    omega
  · simp only [snd_nextParams, nextWord, past, Entry.offsetOf, Entry.size, mk.injEq, and_true,
      true_and]
    omega

end Command

/-! ## Decoded commands -/

/-- The instruction of a command. -/
def Command.instruction (c : Command) : Instruction :=
  Instruction.ofOpcode c.opcode.toNat

/-- Parameter `i` of the entry at the address of a command is a jump: to entry `n`, or nowhere if
`n` is zero. -/
def Command.Jump (p : Program) (c : Command) (i : Nat) (n : Int) : Prop :=
  JumpAt c.instruction.format.toList (p.paramsAt c.address) i n

/-- The commands that decoding leaves: operands follow from the instruction and the entry, and
control does not go on behind an instruction that is to be checked if none of its jumps is left
out. -/
structure Decoded (p : Program) (c : Command) : Prop where
  operands : OperandsFollow p c.instruction.format.toList (p.paramsAt c.address) c.operands
  noFlow_iff : Bits.isSet c.marks CommandMark.noFlow = true ↔
    c.instruction.checksFlow = true ∧ ∀ i n, c.Jump p i n → 0 < n

/-- Every opcode has an instruction of the table. -/
lemma Instruction.ofOpcode_mem_table (n : Nat) : ofOpcode n ∈ table := by
  rw [ofOpcode]
  cases hget : table[n]? with
  | none => exact List.mem_cons_self
  | some ins => exact List.mem_of_getElem? hget

/-- An instruction that is to be checked has jumps. -/
lemma Instruction.jump_mem_of_checksFlow {ins : Instruction} (h : ins ∈ table) :
    ins.checksFlow = true → 'J' ∈ ins.format.toList := by
  revert ins
  decide

/-- The instruction of a special form is that of its own opcode. -/
lemma instruction_of_specialised {opcode n : Nat} {params : List Int} {ins : Instruction}
    (h : specialised opcode params = .ok (n, ins)) : ins = Instruction.ofOpcode n := by
  simp only [specialised] at h
  split at h
  · cases hs : Specialisation.opcode _ opcode params with
    | error e =>
      rw [hs] at h
      cases h
    | ok m =>
      rw [hs] at h
      cases h
      rfl
  · cases h
    rfl

/-- A command for an instruction of which no operand is decoded yet. -/
def Command.begun (address : Int) (opcode : Nat) (checks : Bool) : Command where
  address := address
  size := Entry.size
  opcode := opcode
  marks := if checks then Bits.set 0 CommandMark.checksFlow else 0
  operands := freshOperands

/-- A command that has just begun is marked only if its control flow is to be checked. -/
lemma Command.marks_begun (address : Int) (opcode : Nat) (checks : Bool) :
    (begun address opcode checks).marks = if checks then Bits.set 0 CommandMark.checksFlow else 0 :=
  rfl

/-- A single entry is decoded by the format of its instruction. -/
lemma decode_of_decodeEntry {p : Program} {ea : Int} {opcode size : Nat} {params : List Int}
    {c : Command} (h : (decodeEntry p opcode params).run (Command.fresh ea) = .ok size c) :
    size = Entry.size ∧ ∃ n, specialised opcode params = .ok (n, Instruction.ofOpcode n) ∧
      (decode p (Instruction.ofOpcode n).format.toList params).run
        (Command.begun ea n (Instruction.ofOpcode n).checksFlow) = .ok () c := by
  obtain ⟨_, d, hsize, h⟩ := Analysis.bind_eq_ok.1 h
  obtain rfl := Analysis.modify_eq_ok.1 hsize
  obtain ⟨⟨n, ins⟩, d, hresult, h⟩ := Analysis.bind_eq_ok.1 h
  obtain ⟨hspecial, rfl⟩ := Analysis.ofExcept_eq_ok.1 hresult
  obtain rfl := instruction_of_specialised hspecial
  obtain ⟨_, d, hopcode, h⟩ := Analysis.bind_eq_ok.1 h
  obtain rfl := Analysis.modify_eq_ok.1 hopcode
  have hbegun :
      (do decode p (Instruction.ofOpcode n).format.toList params; return Entry.size :
        Analysis Nat).run
      (Command.begun ea n (Instruction.ofOpcode n).checksFlow) = .ok size c := by
    rw [Command.begun]
    split at h <;> rename_i hchecks
    · obtain ⟨_, d, hmark, h⟩ := Analysis.bind_eq_ok.1 h
      obtain rfl := Analysis.modify_eq_ok.1 hmark
      rw [hchecks]
      exact h
    · rw [Bool.eq_false_iff.2 hchecks]
      exact h
  obtain ⟨_, d, hdecode, hpure⟩ := Analysis.bind_eq_ok.1 hbegun
  obtain ⟨rfl, rfl⟩ := Analysis.pure_eq_ok.1 hpure
  exact ⟨rfl, n, hspecial, hdecode⟩

/-- **Decoding a single entry** leaves a decoded command of its size. -/
lemma decoded_of_decodeEntry {p : Program} {ea : Int} {size : Nat} {c : Command}
    (h : (decodeEntry p (p.opcodeAt ea) (p.paramsAt ea)).run (Command.fresh ea) = .ok size c) :
    Decoded p c ∧ c.address = ea ∧ c.size = size ∧ size = Entry.size := by
  obtain ⟨rfl, n, -, hdecode⟩ := decode_of_decodeEntry h
  obtain ⟨hfollow, marks, hc, hmarks⟩ := operandsFollow_of_decode hdecode rfl
  have haddress : c.address = ea := by rw [hc]; rfl
  have hinstruction : c.instruction = Instruction.ofOpcode n := by rw [hc]; rfl
  refine ⟨⟨?_, ?_⟩, haddress, by rw [hc]; rfl, rfl⟩
  · rw [hinstruction, haddress]
    exact hfollow
  · unfold Command.Jump
    rw [hinstruction, haddress, show c.marks = marks by rw [hc]]
    cases hchecks : (Instruction.ofOpcode n).checksFlow with
    | false =>
      -- a command that is not to be checked keeps its marks
      rw [hchecks, Command.marks_begun] at hmarks
      rcases hmarks with ⟨-, -, hmark, -⟩ | ⟨rfl, -⟩
      · exact absurd hmark (by decide)
      · exact ⟨fun h => absurd h (by decide), fun h => absurd h.1 (by decide)⟩
    | true =>
      have hJ := Instruction.jump_mem_of_checksFlow (Instruction.ofOpcode_mem_table n) hchecks
      rw [hchecks, Command.marks_begun] at hmarks
      rcases hmarks with ⟨rfl, -, -, hall⟩ | ⟨rfl, hleft⟩
      · exact ⟨fun _ => ⟨rfl, hall⟩, fun _ => by decide⟩
      · obtain ⟨i, m, hjump, hle⟩ := hleft hJ (by decide)
        refine ⟨fun h => absurd h (by decide), fun h => ?_⟩
        have := h.2 i m hjump
        omega

/-- A string that was decoded needs the segment of strings. -/
lemma exists_strings_of_setString {p : Program} {i : Nat} {n : Int} {c c' : Command} {u : Unit}
    (h : (setString p i n).run c = .ok u c') : ∃ s, p.segments.lookup "STRINGS" = some s := by
  obtain ⟨address, d, -, h⟩ := Analysis.bind_eq_ok.1 h
  obtain ⟨symbols, d', hsymbols, -⟩ := Analysis.bind_eq_ok.1 h
  have hok := (Analysis.ofExcept_eq_ok.1 hsymbols).1
  cases hlookup : p.segments.lookup "STRINGS" with
  | some s => exact ⟨s, rfl⟩
  | none =>
    simp only [Program.symbolsAt, Program.decodeAt, Program.stringBytes, Program.segment, hlookup,
      Except.map] at hok
    cases hok

/-- The command of a plugin call with `k` arguments. -/
structure IsPluginCall (k : Nat) (c : Command) : Prop where
  opcode : c.opcode = Opcode.pluginCall
  marks : c.marks = Bits.set 0 CommandMark.pluginCall
  map_index : c.operands.map (·.index) = Command.freshOperands.map (·.index)
  not_near : ∀ o ∈ c.operands, o.kind ≠ .near
  /-- The third operand is the number of arguments. -/
  third : ∃ o : Operand, c.operands[2]? = some o ∧ o.kind = .immediate ∧ o.type = .dword ∧
    o.value = k ∧
    Bits.isSet o.marks OperandMark.stackArgs = true

/-- What decoding the call of a plugin does: the first two operands become strings, and the third
one the number of arguments. -/
lemma steps_of_decodePluginCall {p : Program} {call : PluginCall} {size : Nat} {c c' : Command}
    (h : (decodePluginCall p call).run c = .ok size c') :
    ∃ d₀ d₁ d₂, (setString p 0 (call.params[0]?.getD 0)).run
      { c with opcode := Opcode.pluginCall } = .ok () d₀ ∧
      (setString p 1 (call.params[1]?.getD 0)).run d₀ = .ok () d₁ ∧
      Filled 2 (fun o => o.kind = .immediate ∧ o.type = .dword ∧ o.value = call.args ∧
        Bits.isSet o.marks OperandMark.stackArgs = true) d₁ d₂ ∧
      c' = { d₂ with marks := Bits.set d₂.marks CommandMark.pluginCall } ∧
        size = d₂.size.toNat := by
  obtain ⟨_, d, hbegin, h⟩ := Analysis.bind_eq_ok.1 h
  obtain ⟨_, d₀, hlibrary, h⟩ := Analysis.bind_eq_ok.1 h
  obtain ⟨_, d₁, hfunction, h⟩ := Analysis.bind_eq_ok.1 h
  obtain ⟨_, d₂, hargs, h⟩ := Analysis.bind_eq_ok.1 h
  obtain ⟨_, d₃, hstack, h⟩ := Analysis.bind_eq_ok.1 h
  obtain ⟨_, d₄, hmark, h⟩ := Analysis.bind_eq_ok.1 h
  obtain ⟨d₅, d₆, hget, h⟩ := Analysis.bind_eq_ok.1 h
  obtain ⟨rfl, rfl⟩ := Analysis.get_eq_ok.1 hget
  obtain ⟨rfl, rfl⟩ := Analysis.pure_eq_ok.1 h
  obtain rfl := Analysis.modify_eq_ok.1 hbegin
  obtain rfl := Analysis.modify_eq_ok.1 hmark
  refine ⟨d₀, d₁, d₃, hlibrary, hfunction, ?_, rfl, rfl⟩
  exact (filled_of_setNumber hargs).change hstack (fun _ => rfl)
    fun o ho => ⟨ho.1, ho.2.1, ho.2.2, Bits.isSet_set_self _ _⟩

/-- **Decoding the call of a plugin** leaves the command where its entries were read. -/
lemma isPluginCall_of_decodePluginCall {p : Program} {ea : Int} {call : PluginCall} {k size : Nat}
    {c : Command} (h : (decodePluginCall p call).run ((Command.fresh ea).past k) = .ok size c) :
    IsPluginCall call.args c ∧ c.address = ea ∧ c.size = size ∧ size = Entry.size * k ∧
      ∃ s, p.segments.lookup "STRINGS" = some s := by
  obtain ⟨d₀, d₁, d₃, hlibrary, hfunction, h₂, rfl, rfl⟩ := steps_of_decodePluginCall h
  have h₀ := filled_of_setString hlibrary
  have h₁ := filled_of_setString hfunction
  have hbegun : d₃ =
      { (Command.fresh ea).past k with opcode := Opcode.pluginCall, operands := d₃.operands } := by
    rw [h₂.rest, h₁.rest, h₀.rest]
  have hsize : d₃.size = (Entry.size * k : Nat) := by
    rw [congrArg Command.size hbegun]
    simp only [Command.past, Command.fresh, Entry.offsetOf, Entry.size]
    omega
  refine ⟨⟨congrArg Command.opcode hbegun,
    congrArg (Bits.set ·.marks CommandMark.pluginCall) hbegun, ?_, ?_, h₂.getElem?_self⟩,
    congrArg Command.address hbegun, ?_, ?_, exists_strings_of_setString hlibrary⟩
  · exact h₂.map_index.trans (h₁.map_index.trans h₀.map_index)
  · refine h₂.forall_mem (h₁.forall_mem (h₀.forall_mem (fun o ho => ?_) fun _ ho => ho)
      fun _ ho => ho) fun o ho => ?_
    · simp [kind_of_mem_freshOperands ho]
    · simp [ho.1]
  · simp only [hsize, Int.toNat_natCast]
  · simp only [hsize, Int.toNat_natCast]

/-- The call of a plugin is decoded. -/
lemma IsPluginCall.decoded {p : Program} {k : Nat} {c : Command} (h : IsPluginCall k c) :
    Decoded p c := by
  have hinstruction : c.instruction = Instruction.ofOpcode Opcode.pluginCall := by
    rw [Command.instruction, h.opcode, Int.toNat_natCast]
  refine ⟨.of_not_near h.map_index ?_ h.not_near, ?_⟩
  · rw [hinstruction]
    decide
  · rw [h.marks, hinstruction]
    exact ⟨fun hset => absurd hset (by decide), fun hchecks => absurd hchecks.1 (by decide)⟩

end Nsis.Script
