import Nsis.Datum.Arithmetic
import Nsis.Datum.Arity

/-!
# Calculations with numbers

Absolute values, rounding, powers with remainders and quotients with remainders, and the texts that
stand for numbers.

## Main definitions

* `Nsis.Datum.absolute`, `Nsis.Datum.rounding`, `Nsis.Datum.power`,
  `Nsis.Datum.quotientAndRemainder` — calculations.
* `Nsis.Datum.whole`, `Nsis.Datum.real`, `Nsis.Datum.complexOf` — data as numbers.
-/

namespace Nsis.Datum

/-! ### Calculations -/

/-- The absolute value of a number. -/
def absolute (d : Datum) : Except Fault Datum :=
  match d, d.number? with
  | _, some n => .ok (number n.natAbs)
  | fraction x, _ => .ok (fraction x.abs)
  | complex x y, _ =>
    let r := Fraction.diagonal x y
    if r.isInf && !x.isInf && !y.isInf then .error (.misuse (.numeric .hugeLength))
    else .ok (fraction r)
  | d, _ => .error (.noAbsolute d.kind)

/-- A number rounded, to places behind the point where given. -/
def rounding (d : Datum) (places : Option Datum) : Except Fault Datum :=
  match d, d.number?, places with
  | _, some n, none | _, some n, some absent => .ok (number n)
  | _, some n, some p => do
    let k ← wholeOf p
    if 0 ≤ k then return number n
    let unit : Int := Nat.pow 10 (min k.natAbs 10000)
    let low := Int.fdiv n unit
    let half := 2 * (n - low * unit)
    let up := unit < half || (half = unit && low % 2 ≠ 0)
    return number ((if up then low + 1 else low) * unit)
  | fraction x, _, none | fraction x, _, some absent =>
    number <$> Fraction.toInt Fraction.rounded x
  | fraction x, _, some p => do
    let k ← wholeOf p
    if !Fraction.isFinite x || 323 < k then return fraction x
    if k < -308 then return fraction (Fraction.signed (Fraction.isMinus x) 0)
    let size := Fraction.ofDecimal ((Text.Binary.ofFloat x).rounded k) (-k)
    if size.isInf then throw (.misuse (.numeric .hugeRounded))
    return fraction (Fraction.signed (Fraction.isMinus x) size)
  | d, _, _ => .error (.misuse (.numeric (.noRounding d.kind)))

/-- A power with a remainder. -/
def powerModulo (m : Int) (k : Nat) (n : Int) : (fuel : Nat) → Int
  | 0 => Int.fmod 1 n
  | fuel + 1 =>
    if k = 0 then Int.fmod 1 n
    else
      let half := powerModulo (Int.fmod (m * m) n) (k / 2) n fuel
      if k % 2 = 1 then Int.fmod (m * half) n else half

/-- The greatest common divisor of two numbers, and how often the number with the coefficient `s` is
in it beside the one with the coefficient `t`. -/
def commonDivisor (a b : Nat) (s t : Int) : Nat × Int :=
  if _h : b = 0 then (a, s) else commonDivisor b (a % b) t (s - (a / b : Nat) * t)
termination_by b
decreasing_by exact Nat.mod_lt a (by omega)

/-- The inverse of a number modulo another one. -/
def inverse? (m n : Int) : Option Int :=
  let (g, s) := commonDivisor (Int.fmod m n.natAbs).toNat n.natAbs 1 0
  if g = 1 then some (Int.fmod s n) else none

/-- A power, possibly with a remainder. -/
def power (ds : List Datum) : Except Fault Datum :=
  match ds with
  | [d, e] | [d, e, absent] => combine .power d e
  | [d, e, f] =>
    match d.number?, e.number?, f.number? with
    | some m, some k, some n =>
      if n = 0 then .error (.misuse (.numeric .zeroModulus))
      else if 0 ≤ k then .ok (number (powerModulo m k.toNat n (k.toNat.log2 + 1)))
      else
        match inverse? m n with
        | some i => .ok (number (powerModulo i k.natAbs n (k.natAbs.log2 + 1)))
        | none => .error (.misuse (.numeric .noInverse))
    | _, _, _ =>
      let isOne := fun (x : Datum) => x.kind = .fraction
        || (x.kind = .complex && d.complex?.isSome && e.complex?.isSome)
      .error (.misuse (match ([d, e, f].find? isOne).map Datum.kind with
        | some .fraction => (.numeric .powerOfFractions)
        | some _ => (.numeric .complexModulus)
        | none => (.numeric (.noPowerModulo d.kind e.kind f.kind))))
  | _ => .ok absent

/-- A quotient that is rounded down, and its remainder. -/
def quotientAndRemainder (d e : Datum) : Except Fault Datum :=
  match d.number?, e.number?, d.fraction?, e.fraction? with
  | some m, some n, _, _ =>
    if n = 0 then .error (.zeroDivisor .quotient)
    else .ok (tuple [number (Int.fdiv m n), number (Int.fmod m n)])
  | _, _, some x, some y => do
    let (x, y) := ((← x), (← y))
    if y == 0 then throw (.misuse (.numeric .zeroPairDivisor))
    let (q, r) := Fraction.divMod x y
    return tuple [fraction q, fraction r]
  | _, _, _, _ => .error (.noDivMod d.kind e.kind)

/-- A number in a base, with a mark. -/
def marked (base : Nat) (mark : String) (d : Datum) : Except Fault Datum := do
  let n ← wholeOf d
  return text ((if n < 0 then "-" else "") ++ mark ++ String.ofList (Text.digits base n.natAbs))

/-! ### Texts that are numbers -/

/-- The digits behind the sign and mark of a base, and the base. -/
def markedDigits (base : Nat) (cs : List Char) : Nat × List Char :=
  let mark : Nat → List Char → Option (Nat × List Char) := fun b letters => match cs with
    | '0' :: c :: rest =>
      if letters.contains c && (base = b || base = 0) then some (b, rest) else none
    | _ => none
  let behind := fun (cs : List Char) => match cs with
    | '_' :: rest => rest
    | cs => cs
  match mark 16 ['x', 'X'] <|> mark 8 ['o', 'O'] <|> mark 2 ['b', 'B'] with
  | some (b, rest) => (b, behind rest)
  | none => (if base = 0 then 10 else base, cs)

/-- The whole number that a text is in a base, where zero means that the text tells. -/
def wholeOfText (base : Nat) (shown s : String) : Except Fault Datum :=
  let cs := Text.trimmed (s.toList.map Text.plainChar)
  let (minus, cs) := match cs with
    | '-' :: rest => (true, rest)
    | '+' :: rest => (false, rest)
    | cs => (false, cs)
  let (b, ds) := markedDigits base cs
  let bad : Except Fault Datum := .error (.misuse (.numeric (.badWhole base shown)))
  match Text.digitsOf? b ds with
  | none => bad
  | some digits =>
    if base = 0 && b = 10 && digits.head? = some 0 && digits.any (· ≠ 0) then bad
    else if Text.maxDecimalDigits < digits.length && b ∉ [2, 4, 8, 16, 32] then
      .error (.misuse (.numeric (.hugeWhole digits.length)))
    else
      let n : Int := Text.ofDigits b digits
      .ok (number (if minus then -n else n))

/-- Data as a whole number. -/
def whole (d : Datum) : Except Fault Datum :=
  match d, d.number? with
  | _, some n => .ok (number n)
  | fraction x, _ => number <$> Fraction.toInt Fraction.truncated x
  | text s, _ => wholeOfText 10 (Text.quoted s) s
  | d, _ =>
    match d.bytes? with
    | some b =>
      wholeOfText 10 (bytes b).shown (String.ofList (b.map fun c => Char.ofNat c.toNat))
    | none => .error (.misuse (.numeric (.notWhole d.kind)))

/-- Data as a whole number in a base. -/
def wholeInBase (d base : Datum) : Except Fault Datum := do
  let b ← wholeOf base
  if b ≠ 0 && (b < 2 || 36 < b) then throw (.misuse (.numeric .badBase))
  let (shown, s) ← match d with
    | text s => pure (Text.quoted s, s)
    | d =>
      match d.bytes? with
      | some b => pure (shownBytes b, String.ofList (b.map fun c => Char.ofNat c.toNat))
      | none => throw (.misuse (.numeric .baseOfNumber))
  wholeOfText b.toNat shown s

/-- The fraction that a text is. -/
def fractionOfText? (s : String) : Option Float :=
  let cs := Text.trimmed (s.toList.map Text.plainChar)
  let (minus, cs) := match cs with
    | '-' :: rest => (true, rest)
    | '+' :: rest => (false, rest)
    | cs => (false, cs)
  let signed := fun (x : Float) => if minus then -x else x
  let word := String.ofList (cs.map Char.toLower)
  if word = "inf" || word = "infinity" then some (signed (1 / 0))
  else if word = "nan" then some (0 / 0)
  else
    let isLetter := fun (c : Char) => c = 'e' || c = 'E'
    let mantissa := cs.takeWhile (!isLetter ·)
    let exponent := (cs.dropWhile (!isLetter ·)).drop 1
    let whole := mantissa.takeWhile (· ≠ '.')
    let part := (mantissa.dropWhile (· ≠ '.')).drop 1
    let digitsOf := fun (cs : List Char) => if cs.isEmpty then some [] else Text.digitsOf? 10 cs
    let isWritten := cs.any isLetter
    match digitsOf whole, digitsOf part,
      (if isWritten then Text.signedDecimal? exponent else some 0) with
    | some ws, some ps, some e =>
      if ws.isEmpty && ps.isEmpty then none
      else some (signed (Fraction.ofDecimal (Text.ofDigits 10 (ws ++ ps)) (e - ps.length)))
    | _, _, _ => none

/-- Data as a fraction. -/
def real (d : Datum) : Except Fault Datum :=
  let ofText := fun (shown s : String) => match fractionOfText? s with
    | some x => Except.ok (fraction x)
    | none => .error (.misuse (.numeric (.badReal shown)))
  match d, d.number? with
  | _, some n => fraction <$> Fraction.ofInt n
  | fraction x, _ => .ok (fraction x)
  | text s, _ => ofText (Text.quoted s) s
  | d, _ =>
    match d.bytes? with
    | some b => ofText d.shown (String.ofList (b.map fun c => Char.ofNat c.toNat))
    | none => .error (.misuse (.numeric (.notReal d.kind)))

/-- The longest fraction at the start of characters, with what is behind it. -/
def firstFraction? (cs : List Char) : Option (Float × List Char) :=
  ((List.range (cs.length + 1)).reverse.findSome? fun (n : Nat) =>
    let isEdged := (cs.take n).head?.any Text.isBlank || ((cs.take n).getLast?).any Text.isBlank
    if isEdged then none
    else (fractionOfText? (String.ofList (cs.take n))).map fun x => (x, cs.drop n))

/-- The number with an imaginary part that characters are: one or two fractions, of which the last
one has a `j` behind it if it is imaginary, and is one if only its sign is there. -/
def complexOfChars? (cs : List Char) : Option (Float × Float) :=
  let isUnit := fun (c : Char) => c = 'j' || c = 'J'
  let imaginary? := fun (cs : List Char) => match cs with
    | [c] => if isUnit c then some (1 : Float) else none
    | cs => match cs, firstFraction? cs with
      | ['+', d], _ => if isUnit d then some 1 else none
      | ['-', d], _ => if isUnit d then some (-1) else none
      | _, some (y, [d]) => if isUnit d then some y else none
      | _, _ => none
  match imaginary? cs, firstFraction? cs with
  | some y, _ => some (0, y)
  | none, some (x, []) => some (x, 0)
  | none, some (x, c :: rest) =>
    if c = '+' || c = '-' then (imaginary? (c :: rest)).map fun y => (x, y) else none
  | none, none => none

/-- Whether underscores are only between digits. -/
def areJoints : (before : Option Char) → List Char → Bool
  | before, [] => before ≠ some '_'
  | before, c :: cs =>
    (c ≠ '_' || before.any Char.isDigit) && (before ≠ some '_' || c.isDigit) &&
      areJoints (some c) cs

/-- The number with an imaginary part that a text is, which may stand in parentheses. -/
def complexOfText (s : String) : Except Fault Datum :=
  let cs := Text.trimmed (s.toList.map Text.plainChar)
  let inner := match cs with
    | '(' :: rest => if rest.getLast? = some ')' then Text.trimmed rest.dropLast else cs
    | cs => cs
  if cs.contains '_' && !areJoints none cs then
    .error (.misuse (.numeric (.badComplex (Text.quoted s))))
  else
    match complexOfChars? (inner.filter (· ≠ '_')) with
    | some z => .ok (ofParts z)
    | none => .error (.misuse (.numeric .complexText))

/-- Data as a number with an imaginary part. -/
def complexOf (ds : List Datum) : Except Fault Datum :=
  match ds with
  | [] => .ok (complex 0 0)
  | text s :: [] => complexOfText s
  | text _ :: _ => .error (.misuse (.numeric .complexSecond))
  | _ :: text _ :: _ => .error (.misuse (.numeric .complexImaginary))
  | d :: rest =>
    match d.complex? with
    | none => .error (.misuse (.numeric (.complexKind false d.kind)))
    | some z => do
      let (x, y) ← z
      match rest with
      | [] => return complex x y
      | e :: _ =>
        match e.complex? with
        | some w => do
          let (u, v) ← w
          return complex (if e.kind = .complex then x - v else x)
            (if d.kind = .complex then y + u else u)
        | none => throw (.misuse (.numeric (.complexKind true e.kind)))

end Nsis.Datum
