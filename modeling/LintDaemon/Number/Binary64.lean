import LintDaemon.Number.Rounding

/-!
# Floating-point numbers

Binary floating-point numbers of 64 bits, kept as an exact sign, mantissa and exponent, so that
every question about them is one about natural numbers.

* `Binary64.ofRatio`: the number nearest to a quotient, ties to the even mantissa.
* `Binary64.ofDecimal`: the number nearest to a decimal.
* `Binary64.toText`: the fewest digits that read back as the number; positional for exponents
  from -4 to 15, and with at least one digit behind the point.
* `Binary64.toRoundedText`: the nearest whole number, ties to even.

Scope: of the numbers that are none there is one only, without a sign or a payload.
-/

namespace LintDaemon

open LintDaemon.Number

/-- A 64-bit floating-point number. A finite one is `mantissa * 2 ^ exponent`; it is in lowest
form when the mantissa has 53 bits or the exponent is -1074. -/
inductive Binary64
  /-- No number. -/
  | nan
  /-- Beyond every finite number. -/
  | infinite (negative : Bool)
  /-- A finite number, with the sign kept for zero too. -/
  | finite (negative : Bool) (mantissa : Nat) (exponent : Int)
  deriving DecidableEq, Repr

namespace Binary64

/-- The zero of a sign. -/
def zero (negative : Bool) : Binary64 :=
  .finite negative 0 (-1074)

/-- `num / den` scaled by `2 ^ (-exponent)`, as a quotient. -/
def scaled (num den : Nat) (exponent : Int) : Nat × Nat :=
  if exponent ≤ 0 then (num * twoTo (-exponent).toNat, den) else (num, den * twoTo exponent.toNat)

/-- The number nearest to `num / den`, ties to the even mantissa. -/
def ofRatio (negative : Bool) (num den : Nat) : Binary64 :=
  if num = 0 then zero negative
  else
    let guess : Int := (num.log2 : Int) - den.log2 - 52
    let (n, d) := scaled num den guess
    let exponent := max (if n < twoTo 52 * d then guess - 1 else guess) (-1074)
    let (n, d) := scaled num den exponent
    let mantissa := roundDiv n d
    let (mantissa, exponent) :=
      if mantissa = twoTo 53 then (twoTo 52, exponent + 1) else (mantissa, exponent)
    if exponent > 971 then .infinite negative else .finite negative mantissa exponent

/-- The number nearest to `digits * 10 ^ exponent`. Decimals far outside the range are settled by
their order of magnitude. -/
def ofDecimal (negative : Bool) (digits : Nat) (exponent : Int) : Binary64 :=
  if digits = 0 then zero negative
  else
    let magnitude : Int := (Nat.toDigits 10 digits).length + exponent
    if magnitude > 400 then .infinite negative
    else if magnitude < -400 then zero negative
    else if exponent ≤ 0 then ofRatio negative digits (tenTo (-exponent).toNat)
    else ofRatio negative (digits * tenTo exponent.toNat) 1

/-- The number nearest to a whole number. -/
def ofNat (n : Nat) : Binary64 :=
  ofRatio false n 1

/-- Whether the number is zero, of either sign. -/
def isZero : Binary64 → Bool
  | .finite _ 0 _ => true
  | _ => false

/-- Whether the number is below zero; a negative zero is not. -/
def isNegative : Binary64 → Bool
  | .nan => false
  | .infinite negative => negative
  | .finite negative mantissa _ => negative && mantissa != 0

/-- The size of a finite number as a quotient. -/
def ratio (mantissa : Nat) (exponent : Int) : Nat × Nat :=
  scaled mantissa 1 (-exponent)

/-- The product of the size of a finite number and a whole factor, rounded. -/
def scaleBy (factor : Nat) : Binary64 → Binary64
  | .finite negative mantissa exponent =>
    let (num, den) := ratio mantissa exponent
    ofRatio negative (num * factor) den
  | x => x

/-- Whether a number is more than a whole number. -/
def above (bound : Nat) : Binary64 → Bool
  | .nan => false
  | .infinite negative => !negative
  | .finite negative mantissa exponent =>
    let (num, den) := ratio mantissa exponent
    !negative && bound * den < num

/-! ## Shortest digits -/

/-- A decimal: its significant digits, and the place of the point before the first of them. -/
structure Decimal where
  /-- The significant digits, the first one not zero. -/
  digits : List Char
  /-- How many digits stand before the point; the decimal is `0.digits * 10 ^ point`. -/
  point : Int
  deriving DecidableEq, Repr

/-- The largest `k` with `10 ^ k ≤ num / den`, for `num` at least 1. -/
def orderOfMagnitude (num den : Nat) : Int :=
  if den ≤ num then (Nat.toDigits 10 (num / den)).length - 1
  else
    let digits : Int := (Nat.toDigits 10 ((den + num - 1) / num)).length
    -- `den / num` rounded up has `digits` digits, so the order is `-digits` or one more
    if den ≤ num * tenTo (digits - 1).toNat then -(digits - 1) else -digits

/-- The interval of quotients that round to a number, in quarter units of its last bit: the lower
end, the number itself, the upper end; the ends belong to it iff the mantissa is even. Below a
power of two the gap is half as wide. -/
def interval (mantissa : Nat) (exponent : Int) : Nat × Nat × Nat :=
  let low := if mantissa = twoTo 52 ∧ exponent > -1074 then 4 * mantissa - 1 else 4 * mantissa - 2
  (low, 4 * mantissa, 4 * mantissa + 2)

/-- The shortest decimal in the interval of a number that lies on the grid of step `10 ^ k`, if
there is one: of the two grid points around the number the nearer, of two equally near ones the
even. -/
def onGrid? (mantissa : Nat) (exponent k : Int) : Option Nat :=
  let (low, value, high) := interval mantissa exponent
  let (num, den) := scaled 1 1 (2 - exponent)
  -- bring the quarter units and the grid to one denominator
  let unit := if 0 ≤ k then tenTo k.toNat * den else den
  let lift := if 0 ≤ k then num else num * tenTo (-k).toNat
  let value := value * lift
  let low := low * lift
  let high := high * lift
  let below := value / unit
  let inside (point : Nat) : Bool :=
    let x := point * unit
    if mantissa % 2 = 0 then low ≤ x && x ≤ high else low < x && x < high
  let above := below + 1
  match inside below, inside above with
  | true, true =>
    let down := value - below * unit
    let up := above * unit - value
    if down < up then some below
    else if up < down then some above
    else if below % 2 = 0 then some below else some above
  | true, false => some below
  | false, true => some above
  | false, false => none

/-- The first grid, from step `10 ^ k` downwards, with a point in the interval of a number. -/
def shortestFrom (mantissa : Nat) (exponent : Int) : Nat → Int → Decimal
  | 0, _ => ⟨['0'], 1⟩
  | fuel + 1, k =>
    match onGrid? mantissa exponent k with
    | some n =>
      let digits := Nat.toDigits 10 n
      ⟨(digits.reverse.dropWhile (· == '0')).reverse, digits.length + k⟩
    | none => shortestFrom mantissa exponent fuel (k - 1)

/-- The shortest decimal that reads back as a positive finite number, tried with ever more
digits; 17 always suffice. -/
def shortest (mantissa : Nat) (exponent : Int) : Decimal :=
  let (num, den) := ratio mantissa exponent
  shortestFrom mantissa exponent 18 (orderOfMagnitude num den)

/-- Between these places of the point a number is written without an exponent. -/
def Decimal.isPositional (d : Decimal) : Bool :=
  -4 < d.point && d.point ≤ 16

/-- A decimal as text. -/
def Decimal.toChars (d : Decimal) : List Char :=
  if d.isPositional then
    if d.point ≤ 0 then ['0', '.'] ++ List.replicate (-d.point).toNat '0' ++ d.digits
    else
      let n := d.point.toNat
      let whole := d.digits.take n ++ List.replicate (n - d.digits.length) '0'
      let rest := d.digits.drop n
      whole ++ '.' :: (if rest.isEmpty then ['0'] else rest)
  else
    let exponent := d.point - 1
    let size := Nat.toDigits 10 exponent.natAbs
    let mark := if exponent < 0 then '-' else '+'
    let head :=
      match d.digits with
      | [] => []
      | [c] => [c]
      | c :: rest => c :: '.' :: rest
    head ++ 'e' :: mark :: List.replicate (2 - size.length) '0' ++ size

/-- The fewest digits that read back as the number. -/
def toText : Binary64 → String
  | .nan => "nan"
  | .infinite negative => if negative then "-inf" else "inf"
  | .finite negative mantissa exponent =>
    let size :=
      if mantissa = 0 then ['0', '.', '0'] else (shortest mantissa exponent).toChars
    String.ofList (if negative then '-' :: size else size)

/-- The nearest whole number as text, ties to even; the sign of a number that rounds to zero is
kept. -/
def toRoundedText : Binary64 → String
  | .nan => "nan"
  | .infinite negative => if negative then "-inf" else "inf"
  | .finite negative mantissa exponent =>
    let (num, den) := ratio mantissa exponent
    let size := Nat.toDigits 10 (roundDiv num den)
    String.ofList (if negative then '-' :: size else size)

end Binary64

end LintDaemon
