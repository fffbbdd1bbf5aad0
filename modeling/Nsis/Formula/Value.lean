import Nsis.Formula.Call

/-!
# Values of formulas

What a formula stands for when its names have a meaning. A formula can give names to values on its
way, and functions and gatherings have variables of their own.

## Main definitions

* `Nsis.Evaluator.formula` — the value of a formula among variables.
* `Nsis.Evaluator.upTo` — the values of formulas with at most a given number of calls inside one
  another.
* `Nsis.Formula.evaluate` — the value of a text that is a formula.
-/

namespace Nsis

namespace Evaluator

open Evaluation

variable (e : Evaluator) (scope : Scope)

/-! ### Names and choices -/

/-- The value of a name. -/
def named (s : String) : Evaluation Datum := do
  match ← scope.value? s with
  | some d => return d
  | none =>
    match ← scope.common? s with
    | some d => return d
    | none => throw (.unknownName s)

/-- The first of some values that holds or does not, as `holding` says, else the last one. -/
def firstOf (holding : Bool) : List Formula → Evaluation Datum
  | [] => return .absent
  | [f] => e.value scope f
  | f :: fs => do
    let d ← e.value scope f
    if (← e.holds d) = holding then return d
    firstOf holding fs

/-- What the relations of a value to the next one, and so on, give. The first one that does not hold
ends it. -/
def chain (d : Datum) : List (Relation × Formula) → Evaluation Datum
  | [] => return d
  | [(r, f)] => do e.related r d (← e.value scope f)
  | (r, f) :: links => do
    let next ← e.value scope f
    let answer ← e.related r d next
    if ← e.holds answer then chain next links else return answer

/-- A bound of a slice. -/
def bound : Option Formula → Evaluation Datum
  | some f => e.value scope f
  | none => return .absent

/-- A value in a text. -/
def fielded (d : Datum) (conversion : Option Char) (format : String) : Evaluation Datum := do
  let d ← match conversion with
    | none => pure d
    | some 's' => .text <$> e.written d
    | some 'a' => (.text ∘ Text.inAscii) <$> e.shown d
    | some _ => .text <$> e.shown d
  return .text (← e.formatted d format)

/-! ### Groups -/

/-- The items of what is spread out, if it has any. -/
def spreadItems? (d : Datum) : Evaluation (Option (List Datum)) := do
  if !(← isLazy d) then return (← opened d).members.toOption
  let it ← tryCatch (some <$> e.iterator d) fun
    | .notGroup _ => return none
    | cause => throw cause
  it.mapM e.items

/-- The values of items, with those behind a star spread out. What a set cannot spread is refused as
it is anywhere else. -/
def spread (inSet : Bool) : List Formula → Evaluation (List Datum)
  | [] => return []
  | .starred f :: fs => do
    let d ← e.value scope f
    match ← e.spreadItems? d with
    | some items => return items ++ (← spread inSet fs)
    | none =>
      let k := (← opened d).kind
      throw (if inSet then .notGroup k else .misuse (.notSpreadItems k))
  | f :: fs => do
    let d ← e.value scope f
    return d :: (← spread inSet fs)

/-- A set of items. One of several constants is there before anything else, and taken over. -/
def setOf (items : List Formula) : Evaluation Datum := do
  let ds ← e.spread scope true items
  let ds := Datum.laidOut (← ds.mapM keyed)
  let isReady := 2 < items.length && (Formula.constants? items).isSome
  allocated (.set (if isReady then Datum.relaid ds else ds))

/-- How many entries of a record are evaluated before they are put into it. -/
def entryRun : Nat := 15

/-- The entries that stand before the next one with stars. -/
def firstEntries : List Formula → List Formula
  | .pair k v :: fs => .pair k v :: firstEntries fs
  | _ => []

/-- The entries of a record behind earlier ones. Few entries in a row are all evaluated before the
first one is put into the record; `ready` are those that are. -/
def entries (keys values : List Datum) (ready : List (Datum × Datum)) :
    List Formula → Evaluation Datum
  | [] => do
    let ready ← ready.reverse.mapM fun (k, v) => do return (← keyed k, v)
    let (keys, values) := Datum.merged keys values ready
    allocated (.record keys values)
  | .pair k v :: fs => do
    let key ← e.value scope k
    let value ← e.value scope v
    if entryRun < ready.length + (firstEntries fs).length then
      let (keys, values) := Datum.insert keys values (← keyed key) value
      entries keys values [] fs
    else entries keys values ((key, value) :: ready) fs
  | .doubleStarred f :: fs => do
    let ready ← ready.reverse.mapM fun (k, v) => do return (← keyed k, v)
    let (keys, values) := Datum.merged keys values ready
    match ← opened (← e.value scope f) with
    | .record ks vs =>
      let (keys, values) := Datum.merged keys values (ks.zip vs)
      entries keys values [] fs
    | d => throw (.misuse (.notSpreadEntries d.kind))
  | _ :: fs => entries keys values ready fs

/-! ### Arguments -/

/-- Whether an argument has no name. -/
def isPlainArgument : Formula → Bool
  | .labelled _ _ | .doubleStarred _ => false
  | _ => true

/-- What faults of a call call the function. -/
def functionName (d : Datum) : Evaluation String := do
  let within := fun (place : Option Datum) (s : String) => match place with
    | some (.text place) => if place = "builtins" then s ++ "()" else place ++ "." ++ s ++ "()"
    | _ => s ++ "()"
  match ← opened d with
  | .builtin name => return within (some (.text (Datum.placeOf name))) name
  | .type name => return name ++ "()"
  | .thing "function" name parts | .thing "type" name parts =>
    return within (parts.lookup "__module__") name
  | .thing "method_descriptor" name [(_, t)] | .thing "wrapper_descriptor" name [(_, t)] =>
    return t.typeName ++ "." ++ name ++ "()"
  | .method owner name => return Datum.lastWord (← opened owner).kind.name ++ "." ++ name ++ "()"
  | .function title _ _ _ _ _ world => return within (← entryAt? world "__name__") title
  | .attached f _ =>
    match ← opened f with
    | .function title _ _ _ _ _ world => return within (← entryAt? world "__name__") title
    | f => return f.typeName ++ "()"
  | _ => e.written d

/-- Named arguments behind earlier ones, none of which is given twice. -/
def labelledArguments (function : String) (earlier new : Names) : Evaluation Names := do
  match new.find? fun (s, _) => (earlier.lookup s).isSome with
  | some (s, _) => throw (.misuse (.repeatedKeyword function s))
  | none => return earlier ++ new

/-- The arguments of a call of a function, behind earlier ones; `single` if there is only one
without a name. -/
def arguments (function : Datum) (single : Bool) (a : Datum.Arguments) :
    List Formula → Evaluation Datum.Arguments
  | [] => return a
  | .starred f :: fs => do
    let d ← e.value scope f
    match ← e.spreadItems? d with
    | some items => arguments function single { a with plain := a.plain ++ items } fs
    | none =>
      let k := (← opened d).kind
      unless single do throw (.misuse (.notSpreadItems k))
      let _ ← arguments function single a fs
      throw (.misuse (.notSpread (← e.functionName function) k))
  | .doubleStarred f :: fs => do
    match ← opened (← e.value scope f) with
    | .record ks vs =>
      unless ks.all (·.kind = .text) do throw (.misuse .strangeLabels)
      let name ← e.functionName function
      let labelled ← labelledArguments name a.labelled ((ks.map Datum.plain).zip vs)
      arguments function single { a with labelled } fs
    | d => throw (.misuse (.notSpreadRecord (← e.functionName function) d.kind))
  | .labelled s f :: fs => do
    let d ← e.value scope f
    let name ← e.functionName function
    arguments function single { a with labelled := ← labelledArguments name a.labelled [(s, d)] } fs
  | f :: fs => do
    let d ← e.value scope f
    arguments function single { a with plain := a.plain ++ [d] } fs

/-- The value of a call. -/
def callOf (d : Datum) (a : Datum.Arguments) : Evaluation Datum :=
  match d with
  | .builtin name => if scopedNames.contains name then e.callAt scope name a else e.call d a
  | d => e.call d a

/-! ### Gatherings -/

/-- What a gathering is called as a place for functions. -/
def gatheringName : Grouping → String
  | .series => "<genexpr>"
  | .list => "<listcomp>"
  | .set => "<setcomp>"
  | .record => "<dictcomp>"

/-- The variables of clauses. -/
def clauseNames (clauses : List Formula) : List String :=
  clauses.flatMap fun
    | .each pattern _ => pattern.names
    | _ => []

/-- The variable that stands for the source of the first clause. No formula can name it. -/
def firstSource : String := ".0"

/-- A stream of the items of a gathering, which has variables of its own. Only the source of the
first clause is settled now. -/
def itemStream (grouping : Grouping) (item : Formula) (clauses : List Formula) :
    Evaluation Datum := do
  match clauses with
  | .each pattern source :: clauses =>
    let it ← e.iterator (← e.value scope source)
    let names := (pattern.names ++ clauseNames clauses).eraseDups
    let a ← frame ((firstSource, some it) :: names.map fun s => (s, none))
    let place := scope.place ++ gatheringName grouping ++ "."
    streaming "generator" (.gathering {
      item, scope := { scope with frames := a :: scope.frames, place }
      pending := [(it, pattern, clauses)] })
  | _ => return .absent

/-- The items that a gathering collects. -/
def gathered (grouping : Grouping) (item : Formula) (clauses : List Formula) :
    Evaluation Datum := do
  let stream ← e.itemStream scope grouping item clauses
  match grouping with
  | .series => return stream
  | .list => allocated (.list (← e.items stream))
  | .set =>
    let items ← e.walk stream ([] : List Datum) fun ds d => do return .yield ((← keyed d) :: ds)
    allocated (.set (Datum.laidOut items.reverse))
  | .record =>
    let found ← e.walk stream ([] : List (Datum × Datum)) fun ds d => do
      match d with
      | .tuple [k, v] => return .yield ((← keyed k, v) :: ds)
      | _ => return .yield ds
    let (keys, values) := Datum.merged [] [] found.reverse
    allocated (.record keys values)

/-! ### Formulas -/

/-- The value of a formula among variables. -/
def formula : Formula → Evaluation Datum
  | .absent => return .absent
  | .truth b => return .truth b
  | .number n => return .number n
  | .fraction mantissa exponent => return .fraction (Fraction.ofDecimal mantissa exponent)
  | .imaginary mantissa exponent => return .complex 0 (Fraction.ofDecimal mantissa exponent)
  | .text s => return .text s
  | .bytes b => return .bytes b
  | .template parts => do
    let ds ← parts.mapM (e.value scope)
    return .text (String.join (ds.map Datum.plain))
  | .field f conversion format => do
    let d ← e.value scope f
    let parts ← format.mapM (e.value scope)
    e.fielded d conversion (String.join (parts.map Datum.plain))
  | .ellipsis => return .thing "ellipsis" "Ellipsis" []
  | .name s => named scope s
  | .signed o f => do e.signed o (← e.value scope f)
  | .denied f => do return .truth !(← e.holds (← e.value scope f))
  | .combined o f g => do
    let d ← e.value scope f
    e.combined o d (← e.value scope g)
  | .every fs => e.firstOf scope false fs
  | .any fs => e.firstOf scope true fs
  | .related f links => do e.chain scope (← e.value scope f) links
  | .choice condition yes no => do
    if ← e.holds (← e.value scope condition) then e.value scope yes else e.value scope no
  | .tuple items => do return .tuple (← e.spread scope false items)
  | .list items => do allocated (.list (← e.spread scope false items))
  | .set items => e.setOf scope items
  | .record items => e.entries scope [] [] [] items
  | .named s f => do
    let d ← e.value scope f
    scope.give s d
    return d
  | .part f s => do e.partOf (← e.value scope f) s
  | .call f args => do
    let d ← e.value scope f
    let single := (args.filter isPlainArgument).length = 1
    e.callOf scope d (← e.arguments scope d single { plain := [] } args)
  | .item f index => do
    let d ← e.value scope f
    e.itemOf d (← e.value scope index)
  | .slice start stop step => do
    let start ← e.bound scope start
    let stop ← e.bound scope stop
    return .slice start stop (← e.bound scope step)
  | .function parameters defaults body => do
    let defaults ← defaults.mapM fun (s, f) => do return (s, ← e.value scope f)
    allocated (.function (scope.place ++ "<lambda>") parameters defaults body
      body.given.eraseDups scope.frames scope.world)
  | .gathered grouping item clauses => e.gathered scope grouping item clauses
  | .pair k v => do
    let key ← e.value scope k
    return .tuple [key, ← e.value scope v]
  | .starred f | .doubleStarred f | .labelled _ f | .each _ f | .provided f => e.value scope f

/-! ### Depth -/

/-- The next item of what is kept at an address. -/
def nextAt (a : Nat) : Evaluation (Option Datum) := do
  match (← get).object a with
  | .stream kind s => e.step a kind s
  | _ => return none

/-- The values of formulas of at most a given depth, with calls and streams from elsewhere. -/
def ofDepth (calls : Evaluator) : (depth : Nat) → Evaluator
  | 0 => { calls with value := fun _ _ => throw (.misuse (.tooDeep true)) }
  | depth + 1 => { calls with value := fun scope f => (ofDepth calls depth).formula scope f }

/-- The values of formulas with at most a given number of calls inside one another. -/
def upTo (known : Vocabulary) : (calls : Nat) → Evaluator
  | 0 =>
    let stop := fun {α : Type} => (throw (.misuse (.tooDeep false)) : Evaluation α)
    ofDepth ⟨fun _ _ => stop, fun _ _ => stop, fun _ _ _ => stop, fun _ => stop⟩ maxDepth
  | calls + 1 =>
    ofDepth {
      value := fun _ _ => throw (.misuse (.tooDeep true))
      call := fun f a => (upTo known calls).called known f a
      callAt := fun scope name a => (upTo known calls).callScoped scope name a
      next := fun a => (upTo known calls).nextAt a } maxDepth

end Evaluator

/-- The value of a text that is a formula. -/
def Formula.evaluate (known : Vocabulary) (s : String) : Evaluation Datum :=
  (Evaluator.upTo known Evaluator.maxCalls).source {} s

end Nsis
