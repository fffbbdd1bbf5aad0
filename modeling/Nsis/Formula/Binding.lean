import Nsis.Formula.Memory

/-!
# Variables of formulas

The variables of a gathering get the items that it goes through, and the parameters of a function
the arguments of a call.

## Main definitions

* `Nsis.Pattern.shares` — what each one of some patterns gets of some items.
* `Nsis.Parameters.bind` — parameters with the arguments that they get.
* `Nsis.Formula.given` — the names that a function gives to values.
-/

namespace Nsis

namespace Pattern

/-- Whether a pattern takes the items that are left over. -/
def isRest : Pattern → Bool
  | rest _ => true
  | _ => false

/-- What each one of some patterns gets of some items, which are as many as the patterns unless one
of these takes what is left over. -/
def shares (ps : List Pattern) (items : List Datum) : Except Fault (List Datum) :=
  match ps.findIdx? isRest with
  | none =>
    if items.length < ps.length then .error (.misuse (.tooFew ps.length items.length))
    else if ps.length < items.length then .error (.misuse (.tooMany ps.length))
    else .ok items
  | some n =>
    let wanted := ps.length - 1
    if items.length < wanted then .error (.misuse (.tooFewAtLeast wanted items.length))
    else
      let left := items.length - wanted
      .ok (items.take n ++ Datum.list ((items.drop n).take left) :: items.drop (n + left))

end Pattern

namespace Parameters

variable (p : Parameters)

/-- The parameters that a call can name. -/
def nameable : List String :=
  p.plain.drop p.unnamed ++ p.labelled

/-- Refuse arguments with names that no parameter has, or one that has an argument already. -/
def checkLabels (function : String) (direct : Names) (a : Datum.Arguments) : Except Fault Unit :=
  a.labelled.forM fun (label, _) => do
    if p.nameable.contains label then
      if (direct.lookup label).isSome then throw (.misuse (.repeatedLabel function label))
    else if p.record.isNone then
      let hidden := (p.plain.take p.unnamed).filter fun s => (a.labelled.lookup s).isSome
      if hidden.isEmpty then throw (.misuse (.unknownLabel function label))
      throw (.misuse (.unnameable function hidden))

/-- The parameters of a function with the arguments that they get, or else their defaults. -/
def bind (function : String) (defaults : Names) (a : Datum.Arguments) : Except Fault Names := do
  let given := a.plain.length
  let high := p.plain.length
  let direct := p.plain.zip a.plain
  p.checkLabels function direct a
  let (own, others) := a.labelled.partition fun (label, _) => p.nameable.contains label
  if p.rest.isNone && high < given then
    let low := (p.plain.filter fun s => (defaults.lookup s).isNone).length
    let labelled := (p.labelled.filter fun s => (own.lookup s).isSome).length
    throw (.misuse (.count function (.between low high given labelled)))
  let bound := direct ++ own ++ defaults
  let isMissing := fun (s : String) => (bound.lookup s).isNone
  if !(p.plain.filter isMissing).isEmpty then
    throw (.misuse (.count function (.without (p.plain.filter isMissing))))
  if !(p.labelled.filter isMissing).isEmpty then
    throw (.misuse (.count function (.withoutLabelled (p.labelled.filter isMissing))))
  let rest := p.rest.map fun s => (s, Datum.tuple (a.plain.drop high))
  let record := p.record.map fun s =>
    (s, Datum.record (others.map fun (label, _) => .text label) (others.map (·.2)))
  return bound ++ rest.toList ++ record.toList

end Parameters

namespace Formula

mutual

/-- The names that a formula gives to values, outside the functions in it. -/
def given : Formula → List String
  | .named label f => label :: given f
  | .template fs | .every fs | .any fs | .tuple fs | .list fs | .set fs | .record fs => givenIn fs
  | .field f _ format => given f ++ givenIn format
  | .signed _ f | .denied f | .starred f | .doubleStarred f | .labelled _ f | .part f _
  | .each _ f | .provided f => given f
  | .combined _ f g | .pair f g | .item f g => given f ++ given g
  | .related f links => given f ++ givenInLinks links
  | .choice condition yes no => given condition ++ given yes ++ given no
  | .call f fs => given f ++ givenIn fs
  | .slice start stop step => givenInBound start ++ givenInBound stop ++ givenInBound step
  | .function _ defaults _ => givenInDefaults defaults
  | .gathered _ f clauses => given f ++ givenIn clauses
  | .absent | .truth _ | .number _ | .fraction _ _ | .imaginary _ _ | .text _ | .bytes _
  | .ellipsis | .name _ => []

/-- The names that formulas give to values. -/
def givenIn : List Formula → List String
  | [] => []
  | f :: fs => given f ++ givenIn fs

/-- The names that the values in relations give. -/
def givenInLinks : List (Relation × Formula) → List String
  | [] => []
  | (_, f) :: links => given f ++ givenInLinks links

/-- The names that the defaults of parameters give. -/
def givenInDefaults : List (String × Formula) → List String
  | [] => []
  | (_, f) :: defaults => given f ++ givenInDefaults defaults

/-- The names that a bound of a slice gives. -/
def givenInBound : Option Formula → List String
  | none => []
  | some f => given f

end

end Formula

end Nsis
