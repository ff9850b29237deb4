import CaptureDesk.Proofs.Text.Numerals
import Mathlib.Algebra.Order.Ring.Nat

/-!
# What a JSON text gives

Whatever is read from a JSON text can be written as one again (`refusal?_of_read`).  No text stands
for a moment, and the readers themselves refuse a whole number of more digits than are converted.
So the limit on digits has no say where a message shows a value that came from a JSON text.
-/

namespace CaptureDesk.Json

/-! ## Numbers -/

section Numbers

variable {digits whole : List Char} {text rest : List CodePoint} {v : Value}

/-- What the digits that are still to come make of the number so far. -/
theorem foldl_digits_lt (areDigits : ∀ c ∈ digits, c.isDigit = true) (n : Nat) :
    digits.foldl (fun n c => 10 * n + (c.toNat - 0x30)) n < (n + 1) * 10 ^ digits.length := by
  induction digits generalizing n with
  | nil => simp
  | cons c digits ih =>
      obtain ⟨isDigit, areDigits⟩ := List.forall_mem_cons.mp areDigits
      have small := (toNat_of_isDigit isDigit).2
      have step : 10 * n + (c.toNat - 0x30) + 1 ≤ (n + 1) * 10 := by omega
      calc digits.foldl _ (10 * n + (c.toNat - 0x30))
          < (10 * n + (c.toNat - 0x30) + 1) * 10 ^ digits.length := ih areDigits _
        _ ≤ (n + 1) * 10 * 10 ^ digits.length := Nat.mul_le_mul_right _ step
        _ = (n + 1) * 10 ^ (digits.length + 1) := by rw [Nat.pow_succ', Nat.mul_assoc]

/-- A number with few digits is not overlong, whatever its sign. -/
theorem isOverlong_decimalNumber (areDigits : ∀ c ∈ digits, c.isDigit = true)
    (few : digits.length ≤ digitLimit) (negative : Bool) :
    isOverlong (if negative then -(decimalNumber digits : Int) else decimalNumber digits) =
      false := by
  have bound : decimalNumber digits < 10 ^ digitLimit :=
    calc decimalNumber digits < (0 + 1) * 10 ^ digits.length := foldl_digits_lt areDigits 0
      _ = 10 ^ digits.length := Nat.one_mul _
      _ ≤ 10 ^ digitLimit := Nat.pow_le_pow_right (by decide) few
  have magnitude :
      (if negative then -(decimalNumber digits : Int) else decimalNumber digits).natAbs =
        decimalNumber digits := by
    cases negative <;> simp
  unfold isOverlong
  generalize digitLimit = limit at bound ⊢
  rw [magnitude]
  exact decide_eq_false (Nat.not_le.mpr bound)

theorem isDigit_of_digitRun (run : digitRun text = (digits, rest)) :
    ∀ c ∈ digits, c.isDigit = true := by
  fun_induction digitRun text generalizing digits with
  | case1 c text isDigit more left again ih =>
      cases run
      exact List.forall_mem_cons.mpr ⟨isDigit, ih again⟩
  | case2 | case3 =>
      cases run
      exact nofun

theorem refusal?_of_numberRest {negative : Bool} {left : List CodePoint}
    (areDigits : ∀ c ∈ whole, c.isDigit = true)
    (found : numberRest negative whole rest = .ok (v, left)) : refusal? v = none := by
  unfold numberRest at found
  dsimp only at found
  split at found
  · cases found
    rfl
  · split at found
    · split at found
      · cases found
      · rename_i few
        cases found
        have short := isOverlong_decimalNumber areDigits (Nat.le_of_not_lt few) negative
        rw [refusal?, short]
        exact if_neg Bool.false_ne_true
    · cases found
      rfl

theorem refusal?_of_number {left : List CodePoint} (found : number text = .ok (v, left)) :
    refusal? v = none := by
  unfold number at found
  dsimp only at found
  split at found
  · exact refusal?_of_numberRest (List.forall_mem_singleton.mpr rfl) found
  · split at found
    · cases found
    · rename_i run
      exact refusal?_of_numberRest (isDigit_of_digitRun run) found

end Numbers

/-! ## Arrays and objects -/

theorem refusalItems?_eq_none {items : List Value} (each : ∀ v ∈ items, refusal? v = none) :
    refusalItems? items = none := by
  induction items with
  | nil => rfl
  | cons v rest ih =>
      obtain ⟨first, others⟩ := List.forall_mem_cons.mp each
      rw [refusalItems?, first, ih others]
      rfl

theorem refusalFields?_eq_none {fields : List (Str × Value)}
    (each : ∀ field ∈ fields, refusal? field.2 = none) : refusalFields? fields = none := by
  induction fields with
  | nil => rfl
  | cons field rest ih =>
      obtain ⟨first, others⟩ := List.forall_mem_cons.mp each
      rw [refusalFields?, first, ih others]
      rfl

/-- The readers that call one another give nothing that is refused, if nothing before it is. -/
structure Writable (fuel : Nat) : Prop where
  value {text rest : List CodePoint} {v : Value} : value fuel text = .ok (v, rest) →
    refusal? v = none
  elements {before : List Value} {text rest : List CodePoint} {v : Value} :
    elements fuel before text = .ok (v, rest) → (∀ w ∈ before, refusal? w = none) →
      refusal? v = none
  members {before : Table Value} {text rest : List CodePoint} {v : Value} :
    members fuel before text = .ok (v, rest) → (∀ field ∈ before, refusal? field.2 = none) →
      refusal? v = none

section Readers

variable {fuel : Nat} {text rest : List CodePoint} {v : Value}

theorem Writable.value_succ (writable : Writable fuel)
    (found : Json.value (fuel + 1) text = .ok (v, rest)) : refusal? v = none := by
  rw [Json.value.eq_def] at found
  dsimp only at found
  split at found
  · split at found <;> cases found
    rfl
  · split at found
    · cases found
      rfl
    · exact writable.members found nofun
  · split at found
    · cases found
      rfl
    · exact writable.elements found nofun
  all_goals first
    | cases found; rfl
    | exact refusal?_of_number found

theorem Writable.elements_succ (writable : Writable fuel) {before : List Value}
    (found : Json.elements (fuel + 1) before text = .ok (v, rest))
    (each : ∀ w ∈ before, refusal? w = none) : refusal? v = none := by
  rw [Json.elements] at found
  split at found
  · cases found
  · rename_i item after read
    have each : ∀ w ∈ item :: before, refusal? w = none :=
      List.forall_mem_cons.mpr ⟨writable.value read, each⟩
    split at found
    · cases found
      exact refusalItems?_eq_none fun w member => each w (List.mem_reverse.mp member)
    · exact writable.elements found each
    · cases found

theorem Writable.members_succ (writable : Writable fuel) {before : Table Value}
    (found : Json.members (fuel + 1) before text = .ok (v, rest))
    (each : ∀ field ∈ before, refusal? field.2 = none) : refusal? v = none := by
  rw [Json.members.eq_def] at found
  dsimp only at found
  split at found
  · split at found
    · cases found
    · rename_i name after _
      split at found
      · split at found
        · cases found
        · rename_i item left read
          have each : ∀ field ∈ before.put name item, refusal? field.2 = none := by
            intro field member
            rcases Table.eq_or_mem_of_mem_put member with rfl | member
            · exact writable.value read
            · exact each field member
          split at found
          · cases found
            exact refusalFields?_eq_none each
          · exact writable.members found each
          · cases found
      · cases found
  · cases found

theorem writable : ∀ fuel, Writable fuel
  | 0 => ⟨nofun, nofun, nofun⟩
  | fuel + 1 =>
      have ih := writable fuel
      ⟨ih.value_succ, ih.elements_succ, ih.members_succ⟩

end Readers

/-- **What is read from a JSON text can be written as one.** -/
theorem refusal?_of_read {text : List CodePoint} {v : Value} (found : read text = .ok v) :
    refusal? v = none := by
  unfold read at found
  split at found
  · cases found
  · unfold decode at found
    split at found
    · cases found
    · rename_i item after read
      split at found
      · cases found
        exact (writable _).value read
      · cases found

end CaptureDesk.Json
