import CaptureDesk.Decimal.Fixed
import CaptureDesk.Proofs.Decimal.Nearest

/-!
# Doubles rounded to thousandths

A double that is written with three places and read again becomes the double nearest to a number of
thousandths (`rounded`).  It stays as it is just if it was the double nearest to such a number
before (`rounded_eq_self_iff`), and it stays positive just if it is at least the double `0.0005`
(`rounded_pos_iff`).
-/

namespace CaptureDesk.Decimal

open Float.Model (UnpackedFloat)
open Float.Model.UnpackedFloat (Sign)

/-- The whole number of thousandths that is nearest to a quantity. -/
def thousandths (mantissa : ℕ) (exponent : ℤ) : ℕ :=
  roundHalfEven ((ratio mantissa exponent).1 * Nat.pow 10 3) (ratio mantissa exponent).2

/-- A double rounded to thousandths. -/
def rounded (x : Float) : Float :=
  match Binary.ofFloat x with
  | .finite negative mantissa exponent =>
      let y := nearest (thousandths mantissa exponent) (-3)
      if negative then -y else y
  | _ => x

/-! ## Thousandths -/

section Thousandths

variable {n : ℕ} {t : ℤ} {v : ℚ}

theorem ratio_eq (m : ℕ) (e : ℤ) :
    0 < (ratio m e).2 ∧ ((ratio m e).1 : ℚ) / (ratio m e).2 = m * 2 ^ e := by
  unfold ratio
  split
  · rename_i whole
    obtain ⟨k, rfl⟩ := Int.eq_ofNat_of_zero_le whole
    refine ⟨one_pos, ?_⟩
    simp [Nat.shiftLeft_eq]
  · rename_i part
    obtain ⟨k, rfl⟩ : ∃ k : ℕ, e = -k := ⟨(-e).toNat, by omega⟩
    refine ⟨by simp [Nat.shiftLeft_eq], ?_⟩
    simp [Nat.shiftLeft_eq, div_eq_mul_inv]

theorem thousandths_eq (m : ℕ) (e : ℤ) : thousandths m e = halfEven (1000 * (m * 2 ^ e)) := by
  obtain ⟨positive, value⟩ := ratio_eq m e
  rw [thousandths, roundHalfEven_eq_halfEven _ positive, ← value]
  congr 1
  push_cast
  ring

/-- A power of two within the scale of a full mantissa is not rounded. -/
theorem near_two_zpow (j : ℤ) : near (2 ^ j) = 2 ^ j := by
  have scale : Scale (j - 52) (2 ^ j) :=
    ⟨by rw [sub_add_cancel], zpow_lt_zpow_right₀ one_lt_two (by omega)⟩
  have units : (2 : ℚ) ^ j / 2 ^ (j - 52) = (2 ^ 52 : ℕ) := by
    rw [← zpow_sub₀ two_ne_zero]
    norm_num
  rw [near_eq scale, units, halfEven_natCast, ← units, div_mul_cancel₀ _ (zpow_pos two_pos _).ne']

theorem near_close (scale : Scale t v) : near v - 2 ^ t / 2 ≤ v ∧ v ≤ near v + 2 ^ t / 2 := by
  have unit : (0 : ℚ) < 2 ^ t := zpow_pos two_pos t
  have close := halfEven_close (q := v / 2 ^ t) (div_nonneg scale.positive.le unit.le)
  rw [le_div_iff₀ unit, div_le_iff₀ unit] at close
  rw [near_eq scale]
  constructor <;> linarith

/-- A quantity is rounded to the full mantissa that is less than half a unit away. -/
theorem near_unique {m : ℕ} (least : 2 ^ 52 < m) (greatest : m < 2 ^ 53)
    (low : m * 2 ^ t - 2 ^ t / 2 < v) (high : v < m * 2 ^ t + 2 ^ t / 2) :
    near v = m * 2 ^ t := by
  have unit : (0 : ℚ) < 2 ^ t := zpow_pos two_pos t
  have least : (2 ^ 52 + 1 : ℚ) ≤ m := by exact_mod_cast least
  have greatest : (m + 1 : ℚ) ≤ 2 ^ 53 := by exact_mod_cast greatest
  have scale : Scale t v := by
    rw [Scale, zpow_add₀ two_ne_zero, zpow_add₀ two_ne_zero]
    constructor
    · have := mul_le_mul_of_nonneg_right least unit.le
      norm_num only at this ⊢
      linarith
    · have := mul_le_mul_of_nonneg_right greatest unit.le
      norm_num only at this ⊢
      linarith
  have units : halfEven (v / 2 ^ t) = m := by
    apply halfEven_unique
    · rw [lt_div_iff₀ unit]
      linarith
    · rw [div_lt_iff₀ unit]
      linarith
    · exact div_nonneg scale.positive.le unit.le
  rw [near_eq scale, units]

/-- A power of two that is a whole number is a whole number of thousandths. -/
theorem near_thousandths_of_zpow {j : ℤ} (whole : 0 ≤ j) :
    near ((halfEven (1000 * 2 ^ j) : ℕ) / 1000) = 2 ^ j := by
  obtain ⟨k, rfl⟩ := Int.eq_ofNat_of_zero_le whole
  have thousand : (1000 : ℚ) * 2 ^ (k : ℤ) = (1000 * 2 ^ k : ℕ) := by
    push_cast
    rw [zpow_natCast]
  rw [thousand, halfEven_natCast, ← thousand, mul_div_cancel_left₀ _ (by norm_num), near_two_zpow]

/-- **Rounding to thousandths a double that stands for thousandths gives it back.**  The doubles
near a small number lie more densely than the thousandths, and those near a large one less
densely. -/
theorem near_thousandths (positive : 0 < n) :
    near ((halfEven (1000 * near (n / 1000)) : ℕ) / 1000) = near (n / 1000) := by
  obtain ⟨t, _, scale⟩ := scale_places (k := 3) positive le_rfl
  norm_num only at scale
  have unit : (0 : ℚ) < 2 ^ t := zpow_pos two_pos t
  have close := near_close scale
  have some : 0 ≤ 1000 * near ((n : ℚ) / 1000) := by
    have := lt_of_lt_of_le (zpow_pos two_pos _) (near_bounds scale).1
    positivity
  rcases le_or_gt t (-10) with dense | sparse
  · have small : (2 : ℚ) ^ t ≤ 2 ^ (-10 : ℤ) := zpow_le_zpow_right₀ one_le_two dense
    norm_num only at small
    have same : halfEven (1000 * near ((n : ℚ) / 1000)) = n := by
      apply halfEven_unique
      · linarith
      · linarith
      · exact some
    rw [same]
  · have large : (2 : ℚ) ^ (-9 : ℤ) ≤ 2 ^ t := zpow_le_zpow_right₀ one_le_two (by omega)
    norm_num only at large
    have nearby := halfEven_close some
    rcases eq_or_lt_of_le (near_bounds scale).1 with least | above
    · rw [← least]
      exact near_thousandths_of_zpow (by omega)
    · rcases eq_or_lt_of_le (near_bounds scale).2 with greatest | below
      · rw [greatest]
        exact near_thousandths_of_zpow (by omega)
      · obtain ⟨m, mantissa⟩ : ∃ m : ℕ, near ((n : ℚ) / 1000) = m * 2 ^ t := ⟨_, near_eq scale⟩
        rw [mantissa] at above below nearby ⊢
        rw [add_comm, zpow_add₀ two_ne_zero] at above below
        apply near_unique
        · exact_mod_cast lt_of_mul_lt_mul_right above unit.le
        · exact_mod_cast lt_of_mul_lt_mul_right below unit.le
        · linarith
        · linarith

theorem thousandths_pos (positive : 0 < n) : 0 < halfEven (1000 * near (n / 1000)) := by
  obtain ⟨t, above, scale⟩ := scale_places (k := 3) positive le_rfl
  norm_num only at scale
  have least : (2 : ℚ) ^ (-10 : ℤ) ≤ near (n / 1000) :=
    le_trans (zpow_le_zpow_right₀ one_le_two (by omega)) (near_bounds scale).1
  norm_num only at least
  rw [Nat.pos_iff_ne_zero, Ne, halfEven_eq_zero_iff (by linarith)]
  linarith

end Thousandths

/-! ## Doubles -/

section Doubles

variable {n m : ℕ} {e : ℤ} {s : Sign} {x : Float}

theorem neg_neg_double (x : Float) : - -x = x := by
  apply eq_of_parts
  rw [parts_neg, parts_neg]
  cases parts x with
  | notANumber => rfl
  | infinity s => cases s <;> rfl
  | zero s => cases s <;> rfl
  | finite s => cases s <;> rfl

theorem isFinite_neg (x : Float) : (-x).isFinite = x.isFinite := by
  show (parts (-x)).isFinite = (parts x).isFinite
  rw [parts_neg]
  cases parts x <;> rfl

theorem rounded_neg (x : Float) : rounded (-x) = -rounded x := by
  unfold rounded
  rw [ofFloat_eq, ofFloat_eq, parts_neg]
  cases parts x with
  | notANumber => rfl
  | infinity s => rfl
  | zero s => cases s <;> simp [UnpackedFloat.neg, Binary.ofParts, isMinus, neg_neg_double]
  | finite s => cases s <;> simp [UnpackedFloat.neg, Binary.ofParts, isMinus, neg_neg_double]

/-- A positive number of thousandths has a positive double near it, or is too large. -/
theorem parts_nearest_cases (positive : 0 < n) :
    (Amounts .positive (near (n / 1000)) (parts (nearest n (-3))) ∧ near (n / 1000) < 2 ^ 1024) ∨
      parts (nearest n (-3)) = .infinity .positive ∧ 2 ^ 1024 ≤ near (n / 1000) := by
  obtain ⟨a, amounts, same⟩ := parts_nearest (k := 3) positive (by decide) le_rfl
  have thousand : (n : ℚ) / 10 ^ 3 = n / 1000 := by norm_num
  rw [thousand] at amounts
  have same : parts (nearest n (-3)) = (Float.Model.pack a).unpack := same
  rw [same]
  rcases lt_or_ge (near ((n : ℚ) / 1000)) (2 ^ 1024) with small | large
  · rw [amounts.unpack_pack]
    · exact Or.inl ⟨amounts, small⟩
    · obtain ⟨t, above, scale⟩ := scale_places (k := 3) positive le_rfl
      rw [thousand] at scale
      exact le_trans (zpow_le_zpow_right₀ one_le_two (by omega)) (near_bounds scale).1
    · exact small
  · exact Or.inr ⟨amounts.unpack_pack_of_large large, large⟩

theorem nearest_pos_iff : 0 < nearest n (-3) ↔ 0 < n := by
  rcases Nat.eq_zero_or_pos n with rfl | positive
  · decide
  · simp only [positive, iff_true]
    rw [lt_iff_compare, parts_zero]
    rcases parts_nearest_cases positive with ⟨amounts, _⟩ | ⟨same, _⟩
    · generalize parts (nearest n (-3)) = a at amounts ⊢
      cases amounts
      rfl
    · rw [same]
      rfl

theorem not_pos_neg_nearest (n : ℕ) : ¬ 0 < -nearest n (-3) := by
  rcases Nat.eq_zero_or_pos n with rfl | positive
  · decide
  · rw [lt_iff_compare, parts_zero, parts_neg]
    rcases parts_nearest_cases positive with ⟨amounts, _⟩ | ⟨same, _⟩
    · generalize parts (nearest n (-3)) = a at amounts ⊢
      cases amounts
      nofun
    · rw [same]
      nofun

theorem rounded_of_finite {negative : Bool}
    (quantity : Binary.ofFloat x = .finite negative m e) :
    rounded x =
      if negative then -nearest (thousandths m e) (-3) else nearest (thousandths m e) (-3) := by
  rw [rounded, quantity]

theorem ofFloat_of_parts {a : UnpackedFloat} (same : parts x = a) :
    Binary.ofFloat x = .ofParts a := by
  rw [ofFloat_eq, same]

/-- **A double near thousandths is not changed by rounding to thousandths.** -/
theorem rounded_nearest (finite : (nearest n (-3)).isFinite = true) :
    rounded (nearest n (-3)) = nearest n (-3) := by
  rcases Nat.eq_zero_or_pos n with rfl | positive
  · decide +kernel
  rcases parts_nearest_cases positive with ⟨amounts, small⟩ | ⟨same, _⟩
  · obtain ⟨m, e, _, same, value⟩ : ∃ m e, ∃ some : 0 < m,
        parts (nearest n (-3)) = .finite .positive m e some ∧
          (m : ℚ) * 2 ^ e = near (n / 1000) := by
      generalize parts (nearest n (-3)) = a at amounts ⊢
      rcases amounts with ⟨some, _, value⟩
      exact ⟨_, _, some, rfl, value⟩
    have back := near_thousandths positive
    rw [rounded_of_finite (ofFloat_of_parts same), isMinus, if_neg Bool.false_ne_true,
      thousandths_eq, value]
    rcases parts_nearest_cases (thousandths_pos positive) with ⟨again, _⟩ | ⟨_, large⟩
    · rw [back] at again
      exact eq_of_parts (again.unique amounts)
    · rw [back] at large
      exact absurd small large.not_gt
  · have infinite : (nearest n (-3)).isFinite = false := congrArg UnpackedFloat.isFinite same
    rw [infinite] at finite
    cases finite

/-- **A double survives the rounding to thousandths** just if it is the double nearest to a number
of thousandths. -/
theorem rounded_eq_self_iff (finite : x.isFinite = true) :
    rounded x = x ↔ ∃ n, x = nearest n (-3) ∨ x = -nearest n (-3) := by
  constructor
  · intro same
    have number : ∃ negative m e, Binary.ofFloat x = .finite negative m e := by
      have finite : (parts x).isFinite = true := finite
      rw [ofFloat_eq]
      generalize parts x = a at finite ⊢
      cases a with
      | notANumber => cases finite
      | infinity => cases finite
      | zero => exact ⟨_, _, _, rfl⟩
      | finite => exact ⟨_, _, _, rfl⟩
    rcases number with ⟨negative, m, e, quantity⟩
    refine ⟨thousandths m e, ?_⟩
    rw [← same, rounded_of_finite quantity]
    cases negative
    · exact Or.inl rfl
    · exact Or.inr rfl
  · rintro ⟨n, rfl | rfl⟩
    · exact rounded_nearest finite
    · rw [isFinite_neg] at finite
      rw [rounded_neg, rounded_nearest finite]

/-- The double `0.0005` is the least that is more than half a thousandth. -/
theorem half_lt_iff {positive : 0 < m} (canonical : Canonical (.finite s m e positive)) :
    1 / 2 < 1000 * ((m : ℚ) * 2 ^ e) ↔ -63 < e ∨ e = -63 ∧ 4611686018427388 ≤ m := by
  have bound : m < 2 ^ 53 := by
    cases canonical with
    | full _ _ high => exact high
    | short _ high => exact high.trans (by decide)
  rcases lt_trichotomy e (-63) with below | rfl | above
  · have unit : (2 : ℚ) ^ e ≤ 2 ^ (-64 : ℤ) := zpow_le_zpow_right₀ one_le_two (by omega)
    have small : (m : ℚ) * 2 ^ e ≤ 2 ^ 53 * 2 ^ (-64 : ℤ) :=
      mul_le_mul (by exact_mod_cast bound.le) unit (by positivity) (by positivity)
    norm_num only at small
    constructor
    · intro large
      linarith
    · omega
  · have units : 1 / 2 < 1000 * ((m : ℚ) * 2 ^ (-63 : ℤ)) ↔ 2 ^ 62 < 1000 * m := by
      rw [zpow_neg, ← div_eq_mul_inv, mul_div_assoc', div_lt_div_iff₀ two_pos (by positivity)]
      norm_num only [one_mul]
      constructor
      · intro more
        have more : (2 : ℚ) ^ 62 < 1000 * m := by linarith
        exact_mod_cast more
      · intro more
        have more : (2 : ℚ) ^ 62 < 1000 * m := by exact_mod_cast more
        linarith
    rw [units]
    omega
  · cases canonical with
    | full _ low =>
        have unit : (2 : ℚ) ^ (-62 : ℤ) ≤ 2 ^ e := zpow_le_zpow_right₀ one_le_two (by omega)
        have large : (2 : ℚ) ^ 52 * 2 ^ (-62 : ℤ) ≤ m * 2 ^ e :=
          mul_le_mul (by exact_mod_cast low) unit (by positivity) (by positivity)
        norm_num only at large
        simp only [above, true_or, iff_true]
        linarith
    | short => omega

/-- **A double stays positive** just if it is at least `0.0005`. -/
theorem rounded_pos_iff : 0 < rounded x ↔ 0.0005 ≤ x := by
  have bound : parts 0.0005 = .finite .positive 4611686018427388 (-63) (by decide) := rfl
  rw [le_iff_isLE, bound]
  cases same : parts x with
  | notANumber =>
      have kept : rounded x = x := by rw [rounded, ofFloat_of_parts same]; rfl
      rw [kept, lt_iff_compare, same]
      decide
  | infinity s =>
      have kept : rounded x = x := by rw [rounded, ofFloat_of_parts same]; rfl
      rw [kept, lt_iff_compare, same, parts_zero]
      cases s <;> decide
  | zero s =>
      have none : thousandths 0 (-1074) = 0 := by
        rw [thousandths_eq, Nat.cast_zero, zero_mul, mul_zero]
        exact halfEven_natCast 0
      rw [rounded_of_finite (ofFloat_of_parts same), none]
      refine iff_of_false ?_ nofun
      split
      · exact not_pos_neg_nearest 0
      · exact nearest_pos_iff.not.mpr (lt_irrefl 0)
  | finite s m e positive =>
      rw [rounded_of_finite (ofFloat_of_parts same)]
      cases s with
      | negative => exact iff_of_false (not_pos_neg_nearest _) nofun
      | positive =>
          have canonical := canonical_parts x
          rw [same] at canonical
          show 0 < nearest (thousandths m e) (-3) ↔
            ((compare (-63) e).then (compare 4611686018427388 m)).isLE = true
          rw [nearest_pos_iff, thousandths_eq, Nat.pos_iff_ne_zero, Ne,
            halfEven_eq_zero_iff (by positivity), not_le, half_lt_iff canonical]
          rcases lt_trichotomy e (-63) with below | rfl | above
          · rw [Int.compare_eq_gt.mpr below]
            simp
            omega
          · simp [Nat.isLE_compare]
          · rw [Int.compare_eq_lt.mpr above]
            simp
            omega

end Doubles

end CaptureDesk.Decimal
