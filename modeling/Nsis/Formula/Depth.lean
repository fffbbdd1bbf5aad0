import Nsis.Formula.Basic

/-!
# The depth of formulas

How many formulas are inside one another. Formulas of too great a depth are not evaluated.

## Main definitions

* `Nsis.Formula.depth` — the depth of a formula.
-/

namespace Nsis.Formula

mutual

/-- How many formulas are inside one another, the outermost one included. Clauses, entries and the
names of arguments do not count themselves. -/
def depth : Formula → Nat
  | .absent | .truth _ | .number _ | .fraction _ _ | .imaginary _ _ | .text _ | .bytes _
  | .ellipsis | .name _ => 1
  | .template fs | .every fs | .any fs | .tuple fs | .list fs | .set fs | .record fs =>
    depthOf fs + 1
  | .field f _ format => max (depth f) (depthOf format) + 1
  | .signed _ f | .denied f | .starred f | .named _ f | .part f _ => depth f + 1
  | .doubleStarred f | .labelled _ f | .each _ f | .provided f => depth f
  | .combined _ f g | .item f g => max (depth f) (depth g) + 1
  | .pair f g => max (depth f) (depth g)
  | .related f links => max (depth f) (depthOfLinks links) + 1
  | .choice condition yes no => max (depth condition) (max (depth yes) (depth no)) + 1
  | .call f fs => max (depth f) (depthOf fs) + 1
  | .slice start stop step =>
    max (depthOfBound start) (max (depthOfBound stop) (depthOfBound step)) + 1
  | .function _ defaults body => max (depthOfDefaults defaults) (depth body) + 1
  | .gathered _ f clauses => max (depth f) (depthOf clauses) + 1

/-- The greatest depth of some formulas. -/
def depthOf : List Formula → Nat
  | [] => 0
  | f :: fs => max (depth f) (depthOf fs)

/-- The greatest depth of the values in relations. -/
def depthOfLinks : List (Relation × Formula) → Nat
  | [] => 0
  | (_, f) :: links => max (depth f) (depthOfLinks links)

/-- The greatest depth of the defaults of parameters. -/
def depthOfDefaults : List (String × Formula) → Nat
  | [] => 0
  | (_, f) :: defaults => max (depth f) (depthOfDefaults defaults)

/-- The depth of a bound of a slice. -/
def depthOfBound : Option Formula → Nat
  | none => 0
  | some f => depth f

end

end Nsis.Formula
