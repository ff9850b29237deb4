import CaptureDesk.Text.Blank
import CaptureDesk.Text.Digit

/-!
# Whole numbers that people write

A whole number may have white space around it, a sign right before its first digit, digits of any
script, and single underscores between digits.  Nothing else is in it, and it has no more digits
than `Integer.limit`.

The white space is less than `isBlank` allows: of the ASCII characters only the blank and U+0009 to
U+000D count.
-/

namespace CaptureDesk.Text.Integer

/-- The greatest number of digits, leading zeros included. -/
def limit : Nat := 4300

/-- Whether a character may stand around a number. -/
def isMargin (c : Char) : Bool :=
  isBlank c && !(0x1C ≤ c.toNat && c.toNat ≤ 0x1F)

/-- A text without what may stand around a number. -/
def trim (text : List Char) : List Char :=
  stripBy isMargin text

/-- Goes on after a digit: `n` is the number so far, and `count` more digits may follow. -/
def more? (n : Nat) : Nat → List Char → Option Nat
  | _, [] => some n
  | count + 1, '_' :: c :: rest => do more? (10 * n + (← decimalValue? c)) count rest
  | count + 1, c :: rest => do more? (10 * n + (← decimalValue? c)) count rest
  | 0, _ :: _ => none

/-- The number that a run of digits stands for. -/
def digits? : List Char → Option Nat
  | [] => none
  | c :: rest => do more? (← decimalValue? c) (limit - 1) rest

/-- The whole number that a text stands for. -/
def read? (text : List Char) : Option Int :=
  match trim text with
  | '-' :: rest => (digits? rest).map fun n => -(n : Int)
  | '+' :: rest => (digits? rest).map Int.ofNat
  | rest => (digits? rest).map Int.ofNat

example : read? " +1_000\n".toList = some 1000 ∧ read? "-٣".toList = some (-3) := by decide

example : read? "1__0".toList = none ∧ read? "5_".toList = none ∧ read? "+ 5".toList = none := by
  decide

end CaptureDesk.Text.Integer
