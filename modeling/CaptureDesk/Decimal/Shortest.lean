import CaptureDesk.Decimal.Binary

/-!
# The shortest decimal that reads back

A double stands for all reals that round to it.  Of the decimals in that interval the one with the
fewest digits is written; of several with that many digits, the one nearest to the double.

For each number of digits it is enough to look at the two neighbours of the double on the grid of
that many digits: if any point of the grid lies in the interval, one of these two does.
-/

namespace CaptureDesk.Decimal

/-- The decimal `0.d₁d₂…dₙ * 10 ^ point`, where `digits` is the number `d₁d₂…dₙ`. -/
structure Digits where
  digits : Nat
  count : Nat
  point : Int
  deriving DecidableEq, Repr

/-- A positive quantity and the bounds of what rounds to it, over one denominator. -/
structure Interval where
  low : Nat
  value : Nat
  high : Nat
  den : Nat
  closed : Bool
  deriving DecidableEq, Repr

/-- The reals that round to `mantissa * 2 ^ exponent`.  Below a power of two the doubles lie twice
as dense.  The ends belong to it when the mantissa is even. -/
def Interval.of (mantissa : Nat) (exponent : Int) : Interval :=
  let below := if mantissa = 1 <<< 52 ∧ -1074 < exponent then 1 else 2
  let (scale, den) := ratio 1 (exponent - 2)
  ⟨(4 * mantissa - below) * scale, 4 * mantissa * scale, (4 * mantissa + 2) * scale, den,
    mantissa % 2 = 0⟩

/-- Whether a fraction lies in an interval. -/
def Interval.contains (i : Interval) (num den : Nat) : Bool :=
  if i.closed then i.low * den ≤ num * i.den && num * i.den ≤ i.high * den
  else i.low * den < num * i.den && num * i.den < i.high * den

/-- The place of the decimal point: `10 ^ (point - 1) ≤ value < 10 ^ point`. -/
def Interval.point (i : Interval) : Int :=
  ((Nat.toDigits 10 (i.value * Nat.pow 10 350 / i.den)).length : Int) - 350

/-- The digits on the grid of `count` digits that lie in the interval, if there are any. -/
def Interval.onGrid? (i : Interval) (point : Int) (count : Nat) : Option Digits :=
  let shift := point - count
  let up := Nat.pow 10 shift.toNat
  let down := Nat.pow 10 (-shift).toNat
  let floor := i.value * down / (i.den * up)
  let lower := i.contains (floor * up) down
  let upper := i.contains ((floor + 1) * up) down
  if lower || upper then
    let rest := 2 * (i.value * down % (i.den * up))
    let takeUpper :=
      !lower || (upper && (i.den * up < rest || (rest == i.den * up && floor % 2 == 1)))
    let digits := if takeUpper then floor + 1 else floor
    if digits = Nat.pow 10 count then some ⟨1, 1, point + 1⟩ else some ⟨digits, count, point⟩
  else none

/-- The shortest digits of a positive quantity.  Seventeen always suffice. -/
def shortest (mantissa : Nat) (exponent : Int) : Digits :=
  let i := Interval.of mantissa exponent
  let point := i.point
  ((List.range 17).findSome? fun n => i.onGrid? point (n + 1)).getD ⟨mantissa, 17, point⟩

/-- The choices of a style: the exponents that are written positionally, from above `lowest` up
to `highest`, and the least number of digits of an exponent. -/
structure Style where
  lowest : Int
  highest : Int
  exponentDigits : Nat

/-- Numbers from 0.0001 up to 10^16 are written positionally and always with a point; an exponent
has a sign and at least two digits. -/
def plain : Style := ⟨-4, 16, 2⟩

/-- Digits padded in front with zeros to a width. -/
def padded (width n : Nat) : List Char :=
  let digits := Nat.toDigits 10 n
  List.replicate (width - digits.length) '0' ++ digits

/-- Digits written in a style. -/
def Digits.render (d : Digits) (style : Style) : List Char :=
  let digits := padded d.count d.digits
  if style.lowest < d.point ∧ d.point ≤ style.highest then
    if d.point ≤ 0 then '0' :: '.' :: (List.replicate (-d.point).toNat '0' ++ digits)
    else
      let whole := d.point.toNat
      if digits.length ≤ whole then
        digits ++ List.replicate (whole - digits.length) '0' ++ ['.', '0']
      else digits.take whole ++ '.' :: digits.drop whole
  else
    let exponent := d.point - 1
    let mantissa := match digits with
      | [only] => [only]
      | first :: rest => first :: '.' :: rest
      | [] => []
    let sign := if exponent < 0 then '-' else '+'
    mantissa ++ 'e' :: sign :: padded style.exponentDigits exponent.natAbs

/-- The shortest text of a double that reads back, with the words for what is not finite. -/
def shortestText (nan infinity : String) (x : Float) : List Char :=
  let signed (negative : Bool) (text : List Char) := if negative then '-' :: text else text
  match Binary.ofFloat x with
  | .nan => nan.toList
  | .infinite negative => signed negative infinity.toList
  | .finite negative 0 _ => signed negative ['0', '.', '0']
  | .finite negative mantissa exponent =>
      signed negative ((shortest mantissa exponent).render plain)

end CaptureDesk.Decimal
