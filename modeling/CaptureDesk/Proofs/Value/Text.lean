import CaptureDesk.Proofs.Text.Numerals
import CaptureDesk.Value.Text

/-!
# Shown values

The text that shows a value does not hold U+007F, unless the value is a string that holds it:
strings within lists and objects are shown in quotes, where a character that is not printable is
given by its number (`delete_notMem_quoted`).
-/

namespace CaptureDesk

/-! ## Numbers -/

namespace Text

open Decimal (padded)

theorem delete_notMem_toDigits (n : Nat) : '\x7f' ∉ Nat.toDigits 10 n := fun member =>
  absurd (Json.isDigit_of_mem member) (by decide)

theorem delete_notMem_toString (n : Nat) : '\x7f' ∉ (toString n).toList := by
  rw [Nat.toString_eq_repr, Nat.toList_repr]
  exact delete_notMem_toDigits n

theorem delete_notMem_toString_int (n : Int) : '\x7f' ∉ (toString n).toList := by
  intro member
  rcases Json.isDigit_of_mem_toString member with isDigit | minus
  · exact absurd isDigit (by decide)
  · exact absurd minus (by decide)

theorem delete_notMem_padded (width n : Nat) : '\x7f' ∉ padded width n := by
  rw [padded, List.mem_append, not_or]
  refine ⟨fun member => ?_, delete_notMem_toDigits n⟩
  exact absurd (List.eq_of_mem_replicate member) (by decide)

/-- Digits in any style have no other characters beside them than a point, an exponent and its
sign. -/
theorem delete_notMem_render (d : Decimal.Digits) (style : Decimal.Style) :
    '\x7f' ∉ d.render style := by
  have digits := delete_notMem_padded d.count d.digits
  have zeros (n : Nat) : '\x7f' ∉ List.replicate n '0' := fun member =>
    absurd (List.eq_of_mem_replicate member) (by decide)
  unfold Decimal.Digits.render
  generalize padded d.count d.digits = text at digits ⊢
  dsimp only
  split
  · split
    · simp [zeros, digits]
    · split
      · simp [zeros, digits]
      · have front : '\x7f' ∉ text.take d.point.toNat := fun member =>
          digits (List.mem_of_mem_take member)
        have back : '\x7f' ∉ text.drop d.point.toNat := fun member =>
          digits (List.mem_of_mem_drop member)
        simp [front, back]
  · have exponent := delete_notMem_padded style.exponentDigits (d.point - 1).natAbs
    have sign : '\x7f' ≠ (if d.point - 1 < 0 then '-' else '+') := by split <;> decide
    split <;> simp_all

theorem delete_notMem_shortestText {nan infinity : String} (noNan : '\x7f' ∉ nan.toList)
    (noInfinity : '\x7f' ∉ infinity.toList) (x : Float) :
    '\x7f' ∉ Decimal.shortestText nan infinity x := by
  have signed (negative : Bool) {text : List Char} (clean : '\x7f' ∉ text) :
      '\x7f' ∉ if negative then '-' :: text else text := by
    split
    · simpa using clean
    · exact clean
  unfold Decimal.shortestText
  dsimp only
  split
  · exact noNan
  · exact signed _ noInfinity
  · exact signed _ (by decide)
  · exact signed _ (delete_notMem_render _ _)

theorem delete_notMem_hexDigits (width n : Nat) : '\x7f' ∉ hexDigits width n := by
  induction width generalizing n with
  | zero => exact List.not_mem_nil
  | succ width ih =>
      have digit : ∀ m < 16, '\x7f' ≠ hexDigit m := by decide
      rw [hexDigits, List.mem_append, List.mem_singleton, not_or]
      exact ⟨ih _, digit _ (Nat.mod_lt n (by decide))⟩

end Text

/-! ## Moments -/

namespace Moment

open Text (delete_notMem_toString delete_notMem_toString_int delete_notMem_padded)

theorem delete_notMem_commaList (numbers : List Nat) : '\x7f' ∉ (commaList numbers).toList := by
  rw [commaList]
  induction numbers with
  | nil => simp
  | cons n numbers ih =>
      cases numbers with
      | nil => simpa using delete_notMem_toString n
      | cons m numbers =>
          rw [List.map_cons] at ih ⊢
          rw [List.map_cons, String.intercalate_cons_cons]
          simp only [String.toList_append, List.mem_append, not_or]
          exact ⟨⟨delete_notMem_toString n, by decide⟩, ih⟩

theorem delete_notMem_offsetForm (minutes : Int) : '\x7f' ∉ (offsetForm minutes).toList := by
  have seconds := delete_notMem_toString_int (minutes * 60 % 86400)
  unfold offsetForm
  split
  · decide
  · split <;> simpa using seconds

/-- The constructor form of a moment has only visible characters and spaces. -/
theorem delete_notMem_form (m : Moment) : '\x7f' ∉ m.form.toList := by
  rcases m with d | t | ⟨d, t, _ | offset⟩ <;>
    simp [form, kind, delete_notMem_commaList, delete_notMem_offsetForm]

/-- So has its plain text. -/
theorem delete_notMem_text (m : Moment) : '\x7f' ∉ m.text := by
  have date (d : Date) : '\x7f' ∉ d.text := by simp [Date.text, delete_notMem_padded]
  have time (t : Clock) : '\x7f' ∉ t.text := by
    unfold Clock.text
    split <;> simp [delete_notMem_padded]
  have zone (minutes : Int) : '\x7f' ∉ offsetText minutes := by
    unfold offsetText
    split <;> simp [delete_notMem_padded]
  rcases m with d | t | ⟨d, t, _ | offset⟩ <;> simp [text, date, time, zone]

end Moment

/-! ## Quoted values -/

namespace Value

open Text (isPrintable delete_notMem_toString_int delete_notMem_hexDigits
  delete_notMem_shortestText)

mutual

/-- No floating-point number and no overlong number is in a value. -/
def Shown : Value → Prop
  | .float _ => False
  | .int n => Json.isOverlong n = false
  | .array items => ShownItems items
  | .object fields => ShownFields fields
  | _ => True

/-- All items are so. -/
def ShownItems : List Value → Prop
  | [] => True
  | v :: rest => Shown v ∧ ShownItems rest

/-- The values of all fields are so. -/
def ShownFields : List (Str × Value) → Prop
  | [] => True
  | (_, v) :: rest => Shown v ∧ ShownFields rest

end

/-- What stands for a code point in quotes does not hold U+007F, which is not printable. -/
theorem delete_notMem_quotedPoint {quote : Char} (other : quote ≠ '\x7f') (p : CodePoint) :
    '\x7f' ∉ quotedPoint quote p := by
  cases p with
  | surrogate n => simp [quotedPoint, delete_notMem_hexDigits]
  | char c =>
      rw [quotedPoint]
      split
      · rename_i special
        rcases special with rfl | rfl
        · simp [Ne.symm other]
        · decide
      iterate 3
        split
        · decide
      split
      · rename_i printable
        rw [List.mem_singleton]
        rintro rfl
        exact absurd printable (by decide)
      · split
        · simp [delete_notMem_hexDigits]
        · split <;> simp [delete_notMem_hexDigits]

theorem delete_notMem_quotedString (s : Str) : '\x7f' ∉ quotedString s := by
  have quoted {quote : Char} (other : quote ≠ '\x7f') :
      '\x7f' ∉ quote :: (s.points.flatMap (quotedPoint quote) ++ [quote]) := by
    have content : '\x7f' ∉ s.points.flatMap (quotedPoint quote) := by
      rw [List.mem_flatMap]
      rintro ⟨p, _, member⟩
      exact delete_notMem_quotedPoint other p member
    simp [Ne.symm other, content]
  unfold quotedString
  dsimp only
  split
  · exact quoted (by decide)
  · exact quoted (by decide)

mutual

/-- **A value in quoted form does not hold U+007F.** -/
theorem delete_notMem_quoted : ∀ v, '\x7f' ∉ quoted v
  | .null | .bool true | .bool false => by decide
  | .int n => delete_notMem_toString_int n
  | .float x => delete_notMem_shortestText (by decide) (by decide) x
  | .str s => delete_notMem_quotedString s
  | .moment m => m.delete_notMem_form
  | .array [] => by decide
  | .array (v :: rest) => by
      simp [quoted, delete_notMem_quoted v, delete_notMem_quotedItems rest]
  | .object [] => by decide
  | .object ((key, v) :: rest) => by
      simp [quoted, delete_notMem_quotedString, delete_notMem_quoted v,
        delete_notMem_quotedFields rest]

theorem delete_notMem_quotedItems : ∀ items, '\x7f' ∉ quotedItems items
  | [] => List.not_mem_nil
  | v :: rest => by
      simp [quotedItems, delete_notMem_quoted v, delete_notMem_quotedItems rest]

theorem delete_notMem_quotedFields : ∀ fields, '\x7f' ∉ quotedFields fields
  | [] => List.not_mem_nil
  | (key, v) :: rest => by
      simp [quotedFields, delete_notMem_quotedString, delete_notMem_quoted v,
        delete_notMem_quotedFields rest]

end

end Value

end CaptureDesk
