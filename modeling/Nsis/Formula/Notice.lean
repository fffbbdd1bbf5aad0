import Nsis.Datum.Arithmetic

/-!
# Notices on formulas

Some formulas can be read and cannot be meant: one that asks whether a number is the very same as
another thing, a call of a text, an item of a number, or a position that is a text. They are pointed
out before the formula is evaluated.

## Main definitions

* `Nsis.Formula.constant?` — the value of a formula without names and calls.
* `Nsis.Formula.Notice` — what can be pointed out.
* `Nsis.Formula.notices` — what is pointed out about a formula, in order.
-/

namespace Nsis

/-- Whether an operation on constants is carried out before anything else, because its value is
small. -/
def Operation.isSmall (o : Operation) (d e : Datum) : Bool :=
  let width := fun (n : Int) => if n = 0 then 0 else n.natAbs.log2 + 1
  match o, d, e, d.number?, e.number? with
  | .power, _, _, some m, some n => n < 0 || width m * n.natAbs ≤ 128
  | .shiftLeft, _, _, some m, some n => n < 0 || width m + n.natAbs ≤ 128
  | .times, _, _, some m, some n => width m + width n ≤ 128
  | .times, .tuple items, _, _, some n | .times, _, .tuple items, some n, _ =>
    items.length * n.natAbs ≤ 256
  | .times, .text s, _, _, some n | .times, _, .text s, some n, _ => s.length * n.natAbs ≤ 4096
  | .times, .bytes b, _, _, some n | .times, _, .bytes b, some n, _ => b.length * n.natAbs ≤ 4096
  | _, _, _, _, _ => true

namespace Formula

mutual

/-- The value of a formula without names and calls. -/
def constant? : Formula → Option Datum
  | .absent => some .absent
  | .truth b => some (.truth b)
  | .number n => some (.number n)
  | .fraction mantissa exponent => some (.fraction (Fraction.ofDecimal mantissa exponent))
  | .imaginary mantissa exponent => some (.complex 0 (Fraction.ofDecimal mantissa exponent))
  | .text s => some (.text s)
  | .bytes b => some (.bytes b)
  | .ellipsis => some (.thing "ellipsis" "Ellipsis" [])
  | .signed o f => (constant? f).bind fun d => (Datum.applied o d).toOption
  | .denied f => (constant? f).map fun d => .truth !d.holds
  | .combined o f g =>
    (constant? f).bind fun d => (constant? g).bind fun e =>
      if o.isSmall d e then (Datum.combine o d e).toOption else none
  | .tuple items => (constants? items).map .tuple
  | .item f g => (constant? f).bind fun d => (constant? g).bind fun e => (Datum.item d e).toOption
  | _ => none

/-- The values of formulas all of which are without names and calls. -/
def constants? : List Formula → Option (List Datum)
  | [] => some []
  | f :: fs => (constant? f).bind fun d => (constants? fs).map (d :: ·)

end

/-- What can be pointed out about a formula. -/
inductive Notice where
  /-- A constant that is asked to be the very same as something, or not to be. -/
  | identity (same : Bool)
  | notCallable (kind : String)
  | noItems (kind : String)
  | badPosition (group position : String)
  deriving DecidableEq, Repr

/-- The wording. -/
def Notice.message : Notice → String
  | identity same =>
    if same then "\"is\" with a literal. Did you mean \"==\"?"
    else "\"is not\" with a literal. Did you mean \"!=\"?"
  | notCallable kind => "'" ++ kind ++ "' object is not callable; perhaps you missed a comma?"
  | noItems kind => "'" ++ kind ++ "' object is not subscriptable; perhaps you missed a comma?"
  | badPosition group position =>
    group ++ " indices must be integers or slices, not " ++ position
      ++ "; perhaps you missed a comma?"

/-- The line that points something out. -/
def Notice.line (n : Notice) : String :=
  "<string>:1: SyntaxWarning: " ++ n.message ++ "\n"

/-- The kind of what a formula makes, where its form shows it. -/
def kindName? (f : Formula) : Option String :=
  match f, constant? f with
  | _, some d => some d.kind.name
  | .tuple _, _ => some "tuple"
  | .list _, _ | .gathered .list _ _, _ => some "list"
  | .record _, _ | .gathered .record _ _, _ => some "dict"
  | .set _, _ | .gathered .set _ _, _ => some "set"
  | .gathered .series _ _, _ => some "generator"
  | .function _ _ _, _ => some "function"
  | .template _, _ => some "str"
  | .combined .remainder (.text _) (.tuple _), _ => some "str"
  | _, _ => none

/-- Whether a formula is a constant of which there may be several that are equal. -/
def isPlural (f : Formula) : Bool :=
  match constant? f with
  | none | some .absent | some (.truth _) | some (.thing _ _ _) => false
  | some _ => true

/-- What is pointed out about relations, behind a first value that may be plural. -/
def relationNotices (plural : Bool) : List (Relation × Formula) → List Notice
  | [] => []
  | (r, f) :: links =>
    let isPluralNext := isPlural f
    if (r = .same || r = .notSame) && (plural || isPluralNext) then [.identity (r = .same)]
    else relationNotices isPluralNext links

/-- What is pointed out about a call. -/
def callNotices (f : Formula) : List Notice :=
  match kindName? f with
  | some "function" | none => []
  | some kind => [.notCallable kind]

/-- What is pointed out about an item. -/
def itemNotices (f position : Formula) : List Notice :=
  let whole := ["int", "bool"]
  match kindName? f, kindName? position with
  | some kind, index =>
    if ["NoneType", "ellipsis", "int", "bool", "float", "complex", "set", "generator",
      "function"].contains kind then [.noItems kind]
    else if ["str", "bytes", "tuple", "list"].contains kind then
      match index with
      | some index => if whole.contains index then [] else [.badPosition kind index]
      | none => []
    else []
  | none, _ => []

mutual

/-- What is pointed out about a formula, in the order in which its parts are prepared. -/
def notices : Formula → List Notice
  | .template fs | .every fs | .any fs | .tuple fs | .list fs | .set fs | .record fs => noticesOf fs
  | .field f _ format => notices f ++ noticesOf format
  | .denied (.related f [(.same, g)]) =>
    relationNotices (isPlural f) [(.notSame, g)] ++ notices f ++ notices g
  | .denied (.related f [(.notSame, g)]) =>
    relationNotices (isPlural f) [(.same, g)] ++ notices f ++ notices g
  | .signed _ f | .denied f | .starred f | .doubleStarred f | .labelled _ f | .named _ f
  | .part f _ | .each _ f | .provided f => notices f
  | .combined _ f g | .pair f g => notices f ++ notices g
  | .related f links =>
    relationNotices (isPlural f) links ++ notices f ++ linkNotices links
  | .choice condition yes no => notices condition ++ notices yes ++ notices no
  | .call f fs => callNotices f ++ notices f ++ noticesOf fs
  | .item f g => itemNotices f g ++ notices f ++ notices g
  | .slice start stop step => boundNotices start ++ boundNotices stop ++ boundNotices step
  | .function _ defaults body => defaultNotices defaults ++ notices body
  | .gathered _ f clauses =>
    match clauses with
    | [] => notices f
    | c :: cs => noticesOf cs ++ notices f ++ notices c
  | .absent | .truth _ | .number _ | .fraction _ _ | .imaginary _ _ | .text _ | .bytes _
  | .ellipsis | .name _ => []

/-- What is pointed out about formulas. -/
def noticesOf : List Formula → List Notice
  | [] => []
  | f :: fs => notices f ++ noticesOf fs

/-- What is pointed out about the values in relations. -/
def linkNotices : List (Relation × Formula) → List Notice
  | [] => []
  | (_, f) :: links => notices f ++ linkNotices links

/-- What is pointed out about the defaults of parameters. -/
def defaultNotices : List (String × Formula) → List Notice
  | [] => []
  | (_, f) :: defaults => notices f ++ defaultNotices defaults

/-- What is pointed out about a bound of a slice. -/
def boundNotices : Option Formula → List Notice
  | none => []
  | some f => notices f

end

end Formula

end Nsis
