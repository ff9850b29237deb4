import CaptureDesk.Json.Reader
import Mathlib.Tactic.Common

/-!
# Numerals

A whole number is written with its decimal digits, a minus before them if it is negative.  What the
readers of numbers rely on: there is a digit, the digits stand for the number, only zero begins with
a zero, and there are few of them unless the number is overlong.
-/

namespace CaptureDesk.Json

section Digits

variable {n : Nat}

theorem decimalNumber_toDigits (n : Nat) : decimalNumber (Nat.toDigits 10 n) = n :=
  Nat.ofDigitChars_ten_toDigits

theorem isDigit_of_mem {c : Char} (member : c ∈ Nat.toDigits 10 n) : c.isDigit = true :=
  Nat.isDigit_of_mem_toDigits (by decide) (by decide) member

theorem toNat_of_isDigit {c : Char} (isDigit : c.isDigit = true) :
    0x30 ≤ c.toNat ∧ c.toNat ≤ 0x39 := by
  simpa [Char.isDigit, UInt32.le_iff_toNat_le] using isDigit

/-- The digits of a number that is not zero begin with another digit. -/
theorem toDigits_eq_cons (positive : 0 < n) :
    ∃ d rest, Nat.toDigits 10 n = d :: rest ∧ d ≠ '0' := by
  induction n using Nat.strongRecOn with
  | ind n ih =>
      rw [Nat.toDigits_eq_if (by decide)]
      by_cases small : n < 10
      · rw [if_pos small]
        refine ⟨_, _, rfl, ?_⟩
        rw [ne_eq, Nat.digitChar_eq_zero]
        exact Nat.ne_of_gt positive
      · rw [if_neg small]
        obtain ⟨d, rest, digits, notZero⟩ := ih (n / 10) (by omega) (by omega)
        exact ⟨d, rest ++ [(n % 10).digitChar], by rw [digits, List.cons_append], notZero⟩

end Digits

section Int

variable {n : Int}

/-- The digits of a number that is not overlong are not too many. -/
theorem length_toDigits_le (short : isOverlong n = false) :
    (Nat.toDigits 10 n.natAbs).length ≤ digitLimit := by
  have some : 0 < digitLimit := by decide
  unfold isOverlong at short
  generalize digitLimit = limit at short some ⊢
  rw [Nat.length_toDigits_le_iff (by decide) some]
  exact Nat.lt_of_not_le (of_decide_eq_false short)

theorem toList_toString_of_nonneg (nonneg : 0 ≤ n) :
    (toString n).toList = Nat.toDigits 10 n.natAbs := by
  rw [Int.toString_eq_repr, Int.repr_eq_if, if_pos nonneg, Nat.toList_repr,
    ← Int.natAbs_of_nonneg nonneg]
  rfl

theorem toList_toString_of_neg (negative : n < 0) :
    (toString n).toList = '-' :: Nat.toDigits 10 n.natAbs := by
  have magnitude : (-n).toNat = n.natAbs := by omega
  rw [Int.toString_eq_repr, Int.repr_eq_if, if_neg (Int.not_le.mpr negative), String.toList_append,
    Nat.toList_repr, magnitude]
  rfl

/-- How a whole number that is not overlong is written. -/
inductive Numeral : Int → List Char → Prop
  | zero : Numeral 0 ['0']
  | positive {d : Char} {digits : List Char} : d ≠ '0' →
      (∀ c ∈ d :: digits, c.isDigit = true) → (d :: digits).length ≤ digitLimit →
      Numeral (decimalNumber (d :: digits)) (d :: digits)
  | negative {d : Char} {digits : List Char} : d ≠ '0' →
      (∀ c ∈ d :: digits, c.isDigit = true) → (d :: digits).length ≤ digitLimit →
      Numeral (-decimalNumber (d :: digits)) ('-' :: d :: digits)

theorem numeral_toString (short : isOverlong n = false) : Numeral n (toString n).toList := by
  have few := length_toDigits_le short
  have areDigits : ∀ c ∈ Nat.toDigits 10 n.natAbs, c.isDigit = true := fun _ => isDigit_of_mem
  have magnitude := decimalNumber_toDigits n.natAbs
  rcases Int.lt_trichotomy n 0 with negative | rfl | positive
  · obtain ⟨d, digits, split, notZero⟩ := toDigits_eq_cons (n := n.natAbs) (by omega)
    rw [split] at few areDigits magnitude
    have value : n = -decimalNumber (d :: digits) := by omega
    rw [toList_toString_of_neg negative, split]
    exact value ▸ .negative notZero areDigits few
  · have zero : (toString (0 : Int)).toList = ['0'] := by decide
    rw [zero]
    exact .zero
  · obtain ⟨d, digits, split, notZero⟩ := toDigits_eq_cons (n := n.natAbs) (by omega)
    rw [split] at few areDigits magnitude
    have value : n = decimalNumber (d :: digits) := by omega
    rw [toList_toString_of_nonneg (Int.le_of_lt positive), split]
    exact value ▸ .positive notZero areDigits few

/-- A whole number is written with a digit first, or a minus and a digit. -/
theorem toString_opens (n : Int) :
    ∃ d more, d.isDigit = true ∧
      ((toString n).toList = d :: more ∨ (toString n).toList = '-' :: d :: more) := by
  cases digits : Nat.toDigits 10 n.natAbs with
  | nil => exact absurd digits Nat.toDigits_ne_nil
  | cons d more =>
      refine ⟨d, more, isDigit_of_mem (digits ▸ List.mem_cons_self), ?_⟩
      rw [← digits]
      rcases Int.lt_or_le n 0 with negative | nonneg
      · exact .inr (toList_toString_of_neg negative)
      · exact .inl (toList_toString_of_nonneg nonneg)

/-- A whole number is written with digits and a minus. -/
theorem isDigit_of_mem_toString {c : Char} (member : c ∈ (toString n).toList) :
    c.isDigit = true ∨ c = '-' := by
  rcases Int.lt_or_le n 0 with negative | nonneg
  · rw [toList_toString_of_neg negative, List.mem_cons] at member
    exact member.symm.imp_left isDigit_of_mem
  · rw [toList_toString_of_nonneg nonneg] at member
    exact .inl (isDigit_of_mem member)

end Int

end CaptureDesk.Json
