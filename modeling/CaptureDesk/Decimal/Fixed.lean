import CaptureDesk.Decimal.Shortest

/-!
# Decimals with a fixed number of places

A double is rounded from its exact value, so a half occurs only where the double is one; it goes to
the even neighbour.
-/

namespace CaptureDesk.Decimal

/-- A double with `places` digits after the point. -/
def fixedText (places : Nat) (x : Float) : List Char :=
  let signed (negative : Bool) (text : List Char) := if negative then '-' :: text else text
  match Binary.ofFloat x with
  | .nan => "nan".toList
  | .infinite negative => signed negative "inf".toList
  | .finite negative mantissa exponent =>
      let (num, den) := ratio mantissa exponent
      let digits := padded (places + 1) (roundHalfEven (num * Nat.pow 10 places) den)
      let whole := digits.length - places
      signed negative (digits.take whole ++ '.' :: digits.drop whole)

end CaptureDesk.Decimal
