/-!
# Floating-point numbers as exact quantities

A finite double is `mantissa * 2 ^ exponent` with a sign.  Everything that is written about a
double or compared with one is computed from these three in exact arithmetic.
-/

namespace CaptureDesk.Decimal

/-- What a double stands for. -/
inductive Binary where
  | nan
  | infinite (negative : Bool)
  | finite (negative : Bool) (mantissa : Nat) (exponent : Int)
  deriving DecidableEq, Repr

/-- The quantity with the given sixty-four bits: a sign, eleven bits of exponent and fifty-two of
mantissa. -/
def Binary.ofBits (bits : Nat) : Binary :=
  let negative := 1 <<< 63 ≤ bits
  let scale : Nat := bits / (1 <<< 52) % (1 <<< 11)
  let fraction : Nat := bits % (1 <<< 52)
  if scale = 2047 then
    if fraction = 0 then .infinite negative else .nan
  else if scale = 0 then .finite negative fraction (-1074)
  else .finite negative ((1 <<< 52) + fraction) (scale - 1075)

/-- The quantity that a double stands for. -/
def Binary.ofFloat (x : Float) : Binary :=
  Binary.ofBits x.toBits.toNat

/-- A numerator and a denominator of `mantissa * 2 ^ exponent`. -/
def ratio (mantissa : Nat) (exponent : Int) : Nat × Nat :=
  if 0 ≤ exponent then (mantissa <<< exponent.toNat, 1)
  else (mantissa, 1 <<< (-exponent).toNat)

/-- A quotient rounded to the nearest whole number, a half to the even neighbour. -/
def roundHalfEven (num den : Nat) : Nat :=
  let floor := num / den
  let rest := 2 * (num % den)
  if rest < den then floor
  else if den < rest then floor + 1
  else floor + floor % 2

/-- The double nearest to `mantissa * 10 ^ exponent`.  Exponents far outside the range of a double
are settled without computing the power. -/
def nearest (mantissa : Nat) (exponent : Int) : Float :=
  let size := exponent + (mantissa.log2 : Int) * 301 / 1000
  if mantissa = 0 then 0
  else if 320 < size then Float.ofBits 0x7FF0000000000000
  else if size < -345 then 0
  else Float.ofScientific mantissa (exponent < 0) exponent.natAbs

/-- The least whole number that has no double near it: halfway from the greatest double to the
next power of two. -/
def beyondFloat : Nat := (1 <<< 1024) - (1 <<< 970)

/-- The double nearest to a whole number, if there is one. -/
def ofInt? (n : Int) : Option Float :=
  if n.natAbs < beyondFloat then
    let x := nearest n.natAbs 0
    some (if n < 0 then -x else x)
  else none

end CaptureDesk.Decimal
