import CaptureDesk.Proofs.Decimal.Thousandths
import CaptureDesk.Proofs.Toml.Decimals
import CaptureDesk.Settings.Document

/-!
# Numbers with a point in a settings file

A number with a point is written with its thousandths, of which the zeros at the end are left out.
It is read as the double nearest to these thousandths (`scalar_floatText`), since the zeros at the
end of a decimal do not matter.
-/

namespace CaptureDesk

namespace Json

/-- Zeros before digits do not matter, and zeros after them count as powers of ten. -/
theorem decimalNumber_zeros (digits : List Char) (k : ℕ) :
    decimalNumber (List.replicate k '0' ++ digits) = decimalNumber digits ∧
      decimalNumber (digits ++ List.replicate k '0') = decimalNumber digits * 10 ^ k := by
  constructor
  · show Nat.ofDigitChars 10 (List.replicate k '0' ++ digits) 0 = Nat.ofDigitChars 10 digits 0
    rw [Nat.ofDigitChars_append, Nat.ofDigitChars_replicate_zero, Nat.mul_zero]
  · show Nat.ofDigitChars 10 (digits ++ List.replicate k '0') 0 =
      Nat.ofDigitChars 10 digits 0 * 10 ^ k
    rw [Nat.ofDigitChars_append, Nat.ofDigitChars_replicate_zero, Nat.mul_comm]

end Json

namespace Settings

open Decimal (Binary fixedText nearest padded rounded thousandths)
open Json (decimalNumber decimalNumber_zeros)
open Toml (Stops Whole)

/-- A text without the zeros at its end, but with one digit after the point. -/
def trimmed (text : List Char) : List Char :=
  let text := (text.reverse.dropWhile (· == '0')).reverse
  if text.getLast? = some '.' then text ++ ['0'] else text

theorem floatText_eq (x : Float) : floatText x = trimmed (fixedText 3 x) := rfl

section Trimmed

variable {front places : List Char}

/-- A list is what is left of it without the zeros at its end, and those zeros. -/
theorem exists_replicate_zero (places : List Char) :
    ∃ k, places = places.rdropWhile (· == '0') ++ List.replicate k '0' := by
  have zeros : places.rtakeWhile (· == '0') =
      List.replicate (places.rtakeWhile (· == '0')).length '0' :=
    List.eq_replicate_of_mem fun c member => by simpa using List.mem_rtakeWhile_imp member
  exact ⟨_, by rw [← zeros, List.rdropWhile_append_rtakeWhile]⟩

/-- The places of a decimal lose the zeros at their end, but not all of them. -/
theorem trimmed_append (front : List Char) (nonempty : places ≠ [])
    (areDigits : ∀ c ∈ places, c.isDigit = true) :
    ∃ kept k, kept ≠ [] ∧ places = kept ++ List.replicate k '0' ∧
      trimmed (front ++ '.' :: places) = front ++ '.' :: kept := by
  have drops : ((front ++ '.' :: places).reverse.dropWhile (· == '0')).reverse =
      front ++ '.' :: places.rdropWhile (· == '0') := by
    rw [List.reverse_append, List.reverse_cons, List.append_assoc, List.dropWhile_append]
    split
    · rename_i none
      have none : places.rdropWhile (· == '0') = [] := by
        rw [List.rdropWhile, List.reverse_eq_nil_iff]
        exact List.isEmpty_iff.mp none
      rw [none]
      simp
    · simp [List.rdropWhile]
  obtain ⟨k, split⟩ := exists_replicate_zero places
  rw [trimmed, drops]
  cases kept : places.rdropWhile (· == '0') with
  | nil =>
      rw [kept, List.nil_append] at split
      cases k with
      | zero => exact absurd split nonempty
      | succ k => exact ⟨['0'], k, by simp, split, by simp⟩
  | cons d more =>
      rw [kept] at split
      have digit : (front ++ '.' :: d :: more).getLast? ≠ some '.' := by
        rw [List.getLast?_append, List.getLast?_cons_cons]
        intro point
        have last : (d :: more).getLast? = some '.' := by
          rw [List.getLast?_cons] at point ⊢
          exact point
        have member : '.' ∈ places := by
          rw [split]
          exact List.mem_append_left _ (List.mem_of_getLast? last)
        exact absurd (areDigits _ member) (by decide)
      exact ⟨d :: more, k, by simp, split, if_neg digit⟩

end Trimmed

/-- The thousandths of a number as digits before and after a point. -/
theorem padded_thousandths (n : ℕ) :
    Whole ((padded 4 n).take ((padded 4 n).length - 3)) ∧
      ((padded 4 n).drop ((padded 4 n).length - 3)).length = 3 ∧
      (∀ c ∈ (padded 4 n), c.isDigit = true) ∧ decimalNumber (padded 4 n) = n := by
  have number : decimalNumber (padded 4 n) = n := by
    rw [padded, (decimalNumber_zeros _ _).1, Json.decimalNumber_toDigits]
  have areDigits : ∀ c ∈ padded 4 n, c.isDigit = true := by
    intro c member
    rcases List.mem_append.mp member with zero | digit
    · rw [List.eq_of_mem_replicate zero]
      rfl
    · exact Json.isDigit_of_mem digit
  have length : 4 ≤ (padded 4 n).length := by
    simp [padded]
    omega
  refine ⟨?_, by simp; omega, areDigits, number⟩
  have few : (Nat.toDigits 10 n).length ≤ 3 ↔ n < 10 ^ 3 :=
    Nat.length_toDigits_le_iff (by decide) (by decide)
  rcases Nat.lt_or_ge n (10 ^ 3) with small | large
  · obtain ⟨k, zeros⟩ : ∃ k, 4 - (Nat.toDigits 10 n).length = k + 1 :=
      ⟨3 - (Nat.toDigits 10 n).length, by have := few.mpr small; omega⟩
    have single : (padded 4 n).length - 3 = 1 := by
      have := few.mpr small
      simp [padded]
      omega
    rw [single, padded, zeros]
    exact .zero
  · have many : ¬ (Nat.toDigits 10 n).length ≤ 3 := fun less => by
      have := few.mp less
      omega
    obtain ⟨d, more, digits, notZero⟩ := Json.toDigits_eq_cons (n := n) (by omega)
    have none : 4 - (Nat.toDigits 10 n).length = 0 := by omega
    have same : padded 4 n = d :: more := by
      rw [padded, none, digits]
      rfl
    obtain ⟨k, rest⟩ : ∃ k, (d :: more).length - 3 = k + 1 := ⟨(d :: more).length - 4, by
      rw [same] at length
      omega⟩
    rw [same] at areDigits ⊢
    rw [rest, List.take_succ_cons]
    refine .other notZero fun c member => areDigits c ?_
    rcases List.mem_cons.mp member with rfl | member
    · exact List.mem_cons_self
    · exact List.mem_cons_of_mem d (List.mem_of_mem_take member)

/-! ## The text of a number -/

/-- The text of a number with a point, and what is read from it. -/
inductive Shape : Float → List Char → Prop
  | decimal {x : Float} (negative : Bool) {whole places : List Char} (isWhole : Whole whole)
      (nonempty : places ≠ []) (areDigits : ∀ c ∈ places, c.isDigit = true)
      (value : rounded x = Json.decimalFloat negative whole places 0) :
      Shape x ((if negative then ['-'] else []) ++ (whole ++ '.' :: places))
  | infinity : Shape (1.0 / 0.0) "inf".toList
  | minusInfinity : Shape (-1.0 / 0.0) "-inf".toList
  | notANumber : Shape (0.0 / 0.0) "nan".toList

section Texts

variable {x : Float} {rest : List Char}

/-- The zeros that are left out do not matter. -/
theorem rounded_eq_decimalFloat {negative : Bool} {m : ℕ} {e : ℤ} {whole places : List Char} {k : ℕ}
    (quantity : Binary.ofFloat x = .finite negative m e) (nonempty : places ≠ [])
    (length : places.length + k = 3)
    (number : thousandths m e = decimalNumber (whole ++ places ++ List.replicate k '0')) :
    rounded x = Json.decimalFloat negative whole places 0 := by
  have some : 0 < places.length := List.length_pos_iff.mpr nonempty
  have same : nearest (thousandths m e) (-3) =
      nearest (decimalNumber (whole ++ places)) (0 - places.length) := by
    have three : (-3 : ℤ) = -(places.length + k : ℕ) := by rw [length]; rfl
    rw [number, (decimalNumber_zeros _ _).2, three, Decimal.nearest_mul_pow _ some length.le,
      zero_sub]
  rw [Decimal.rounded_of_finite quantity, same]
  rfl

/-- A double that is not finite is told by its word. -/
theorem eq_of_ofFloat (quantity : Binary.ofFloat x = .nan) : x = 0.0 / 0.0 := by
  apply Decimal.eq_of_parts
  rw [Decimal.ofFloat_eq] at quantity
  generalize Decimal.parts x = a at quantity
  cases a with
  | notANumber => rfl
  | _ => cases quantity

theorem eq_of_ofFloat_infinite {negative : Bool}
    (quantity : Binary.ofFloat x = .infinite negative) :
    x = if negative then -1.0 / 0.0 else 1.0 / 0.0 := by
  apply Decimal.eq_of_parts
  rw [Decimal.ofFloat_eq] at quantity
  generalize Decimal.parts x = a at quantity
  cases a with
  | infinity s =>
      obtain rfl := Binary.infinite.inj quantity
      cases s <;> rfl
  | _ => cases quantity

theorem shape_floatText (x : Float) : Shape x (floatText x) := by
  cases quantity : Binary.ofFloat x with
  | nan =>
      obtain rfl := eq_of_ofFloat quantity
      rw [floatText_eq, fixedText, quantity]
      exact .notANumber
  | infinite negative =>
      obtain rfl := eq_of_ofFloat_infinite quantity
      rw [floatText_eq, fixedText, quantity]
      cases negative
      · exact .infinity
      · exact .minusInfinity
  | finite negative m e =>
      obtain ⟨isWhole, length, areDigits, number⟩ := padded_thousandths (thousandths m e)
      have text : fixedText 3 x = (if negative then ['-'] else []) ++
          (padded 4 (thousandths m e)).take ((padded 4 (thousandths m e)).length - 3) ++
          '.' :: (padded 4 (thousandths m e)).drop ((padded 4 (thousandths m e)).length - 3) := by
        rw [fixedText, quantity]
        cases negative <;> rfl
      have whole := List.take_append_drop ((padded 4 (thousandths m e)).length - 3)
        (padded 4 (thousandths m e))
      rw [floatText_eq, text]
      generalize padded 4 (thousandths m e) = digits at *
      generalize digits.take (digits.length - 3) = front at *
      generalize digits.drop (digits.length - 3) = places at *
      rw [← whole] at areDigits number
      have areDigits : ∀ c ∈ places, c.isDigit = true := fun c member =>
        areDigits c (List.mem_append_right front member)
      obtain ⟨kept, k, nonempty, split, trims⟩ :=
        trimmed_append ((if negative then ['-'] else []) ++ front)
          (by rintro rfl; cases length) areDigits
      rw [trims, List.append_assoc]
      refine .decimal negative isWhole nonempty (fun c member => areDigits c ?_) ?_
      · rw [split]
        exact List.mem_append_left _ member
      · rw [split] at length number
        refine rounded_eq_decimalFloat quantity nonempty (by simpa using length) ?_
        rw [List.append_assoc, number]

/-- **A number with a point is read as it was rounded.** -/
theorem scalar_floatText (x : Float) (stops : Stops rest) :
    Toml.scalar (floatText x ++ rest) = .ok (.float (rounded x), rest) := by
  have shape := shape_floatText x
  generalize floatText x = text at shape ⊢
  cases shape with
  | decimal negative isWhole nonempty areDigits value =>
      have read := Toml.scalar_decimal isWhole areDigits nonempty stops negative
      rw [value, ← read]
      simp
  | infinity => exact (Toml.scalar_words rest).1
  | minusInfinity => exact (Toml.scalar_words rest).2.1
  | notANumber => exact (Toml.scalar_words rest).2.2

end Texts

end Settings

end CaptureDesk
