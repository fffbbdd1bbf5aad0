/-!
# Operations of formulas

The operations on one and on two values and the relations between two, how they are written, and how
tightly they bind.

## Main definitions

* `Nsis.Operation` — operations on two values.
* `Nsis.Operation.level` — how tightly an operation binds.
* `Nsis.Operation.Unary` — operations on one value.
* `Nsis.Relation` — relations between two values.
-/

namespace Nsis

/-- Operations on two values. -/
inductive Operation where
  | bitwiseOr
  | bitwiseXor
  | bitwiseAnd
  | shiftLeft
  | shiftRight
  | plus
  | minus
  | times
  | matrixTimes
  | division
  | quotient
  | remainder
  | power
  deriving DecidableEq, Repr

namespace Operation

/-- All operations. -/
def all : List Operation := [
  bitwiseOr, bitwiseXor, bitwiseAnd, shiftLeft, shiftRight, plus, minus, times, matrixTimes,
  division, quotient, remainder, power]

/-- How an operation is written. -/
def sign : Operation → String
  | bitwiseOr => "|"
  | bitwiseXor => "^"
  | bitwiseAnd => "&"
  | shiftLeft => "<<"
  | shiftRight => ">>"
  | plus => "+"
  | minus => "-"
  | times => "*"
  | matrixTimes => "@"
  | division => "/"
  | quotient => "//"
  | remainder => "%"
  | power => "**"

/-- The operation that is written in a given way. -/
def ofSign? (sign : String) : Option Operation :=
  all.find? (·.sign = sign)

/-- All operations are listed. -/
theorem mem_all (o : Operation) : o ∈ all := by
  cases o <;> decide

/-- Operations are told apart by their signs. -/
theorem ofSign?_sign (o : Operation) : ofSign? o.sign = some o := by
  cases o <;> decide

/-- How an operation is called in faults. -/
def title : Operation → String
  | power => "** or pow()"
  | o => o.sign

/-- How tightly the operations on one value bind. -/
def unaryLevel : Nat := 7

/-- How tightly an operation binds. Only a power binds more tightly than an operation on one
value. -/
def level : Operation → Nat
  | bitwiseOr => 1
  | bitwiseXor => 2
  | bitwiseAnd => 3
  | shiftLeft | shiftRight => 4
  | plus | minus => 5
  | times | matrixTimes | division | quotient | remainder => 6
  | power => 8

/-- How tightly the right side of an operation has to bind: more tightly than the operation, so that
it groups to the left, except for powers, which group to the right. -/
def rightLevel : Operation → Nat
  | power => unaryLevel
  | o => o.level + 1

/-- Operations on one value. -/
inductive Unary where
  | positive
  | negative
  | complement
  deriving DecidableEq, Repr

/-- How an operation on one value is written. -/
def Unary.sign : Unary → String
  | positive => "+"
  | negative => "-"
  | complement => "~"

/-- The operation on one value that is written in a given way. -/
def Unary.ofSign? (sign : String) : Option Unary :=
  [positive, negative, complement].find? (·.sign = sign)

end Operation

/-- Relations between two values. -/
inductive Relation where
  | less
  | lessEqual
  | greater
  | greaterEqual
  | equal
  | unequal
  /-- To be an item of the other value. -/
  | within
  | notWithin
  /-- To be the very same value. -/
  | same
  | notSame
  deriving DecidableEq, Repr

namespace Relation

/-- How a relation is written. -/
def sign : Relation → String
  | less => "<"
  | lessEqual => "<="
  | greater => ">"
  | greaterEqual => ">="
  | equal => "=="
  | unequal => "!="
  | within => "in"
  | notWithin => "not in"
  | same => "is"
  | notSame => "is not"

/-- The relation that is written with a given sign. -/
def ofSign? (sign : String) : Option Relation :=
  [less, lessEqual, greater, greaterEqual, equal, unequal].find? (·.sign = sign)

end Relation

end Nsis
