import CaptureDesk.Proofs.Decimal.Doubles

/-!
# The double nearest to a decimal

The quotient of two doubles is rounded once: it is the double nearest to the exact quotient, and
depends on nothing else (`amounts_div`).  So the double of a decimal with a few places depends only
on its value, not on the zeros that it is written with (`nearest_mul_pow`).
-/

namespace CaptureDesk.Decimal

open Float.Model (Format UnpackedFloat totalExponent)
open Float.Model.Format (binary64)
open Float.Model.UnpackedFloat (Accuracy ExtendedMantissa Sign accuracyOfFraction roundWithAccuracy
  shiftToExponent shiftToTargetExponent)

/-! ## Whole numbers near a quantity -/

/-- The whole number nearest to a quantity, of two equally near ones the even one. -/
def halfEven (q : ℚ) : ℕ :=
  if q - ⌊q⌋₊ < 1 / 2 then ⌊q⌋₊
  else if 1 / 2 < q - ⌊q⌋₊ then ⌊q⌋₊ + 1
  else ⌊q⌋₊ + ⌊q⌋₊ % 2

section HalfEven

variable {q : ℚ} {n : ℕ}

/-- The rounding of quotients by whole numbers is the rounding of their values. -/
theorem roundHalfEven_eq_halfEven (num : ℕ) {den : ℕ} (positive : 0 < den) :
    roundHalfEven num den = halfEven ((num : ℚ) / den) := by
  have above : (0 : ℚ) < den := by exact_mod_cast positive
  have whole : ⌊(num : ℚ) / den⌋₊ = num / den := Nat.floor_div_eq_div num den
  have rest : (num : ℚ) / den - (num / den : ℕ) = (num % den : ℕ) / den := by
    have split : (num : ℚ) = den * (num / den : ℕ) + (num % den : ℕ) := by
      exact_mod_cast (Nat.div_add_mod num den).symm
    field_simp
    linarith
  have below : (num % den : ℕ) / (den : ℚ) < 1 / 2 ↔ 2 * (num % den) < den := by
    rw [div_lt_div_iff₀ above two_pos, one_mul, mul_comm]
    exact_mod_cast Iff.rfl
  have beyond : 1 / 2 < (num % den : ℕ) / (den : ℚ) ↔ den < 2 * (num % den) := by
    rw [div_lt_div_iff₀ two_pos above, one_mul, mul_comm]
    exact_mod_cast Iff.rfl
  rw [halfEven, whole, rest, roundHalfEven]
  simp only [below, beyond]

theorem halfEven_close (nonneg : 0 ≤ q) :
    (halfEven q : ℚ) - 1 / 2 ≤ q ∧ q ≤ halfEven q + 1 / 2 := by
  have low := Nat.floor_le nonneg
  have high := Nat.lt_floor_add_one q
  unfold halfEven
  split
  · constructor <;> linarith
  · split
    · push_cast
      constructor <;> linarith
    · have half : q = ⌊q⌋₊ + 1 / 2 := by linarith
      rcases Nat.mod_two_eq_zero_or_one ⌊q⌋₊ with even | odd
      · rw [even]
        push_cast
        constructor <;> linarith
      · rw [odd]
        push_cast
        constructor <;> linarith

/-- A quantity is rounded to the whole number that is less than a half away. -/
theorem halfEven_unique (low : (n : ℚ) - 1 / 2 < q) (high : q < n + 1 / 2) (nonneg : 0 ≤ q) :
    halfEven q = n := by
  have close := halfEven_close nonneg
  have below : (halfEven q : ℚ) < n + 1 := by linarith
  have above : (n : ℚ) < halfEven q + 1 := by linarith
  have below' : halfEven q < n + 1 := by exact_mod_cast below
  have above' : n < halfEven q + 1 := by exact_mod_cast above
  omega

theorem halfEven_natCast (n : ℕ) : halfEven n = n :=
  halfEven_unique (by linarith) (by linarith) n.cast_nonneg

theorem le_halfEven (low : (n : ℚ) ≤ q) : n ≤ halfEven q := by
  have close := halfEven_close (le_trans n.cast_nonneg low)
  have above : (n : ℚ) < halfEven q + 1 := by linarith
  have above' : n < halfEven q + 1 := by exact_mod_cast above
  omega

theorem halfEven_le (nonneg : 0 ≤ q) (high : q ≤ n) : halfEven q ≤ n := by
  have close := halfEven_close nonneg
  have below : (halfEven q : ℚ) < n + 1 := by linarith
  have below' : halfEven q < n + 1 := by exact_mod_cast below
  omega

theorem halfEven_eq_zero_iff (nonneg : 0 ≤ q) : halfEven q = 0 ↔ q ≤ 1 / 2 := by
  constructor
  · intro none
    have close := halfEven_close nonneg
    rw [none] at close
    push_cast at close
    linarith
  · intro small
    rcases lt_or_eq_of_le small with below | rfl
    · exact halfEven_unique (by push_cast; linarith) (by push_cast; linarith) nonneg
    · norm_num [halfEven]

end HalfEven

/-! ## Extended mantissas -/

/-- An extended mantissa stands for a quantity of units.  Its first bit counts a half, and its
second one says whether there is anything beyond that. -/
def Stands (em : ExtendedMantissa) (q : ℚ) : Prop :=
  ∃ rest : ℚ, 0 ≤ rest ∧ rest < 1 / 2 ∧ (em.stickyBit = true ↔ rest ≠ 0) ∧
    q = em.mantissa + (if em.roundBit then 1 / 2 else 0) + rest

namespace Stands

variable {em : ExtendedMantissa} {q : ℚ}

theorem floor (stands : Stands em q) : ⌊q⌋₊ = em.mantissa := by
  rcases stands with ⟨rest, nonneg, small, _, same⟩
  have mantissa : (0 : ℚ) ≤ em.mantissa := em.mantissa.cast_nonneg
  rw [same]
  split
  · rw [Nat.floor_eq_iff (by linarith)]
    constructor <;> linarith
  · rw [Nat.floor_eq_iff (by linarith)]
    constructor <;> linarith

/-- Rounding by the two bits is rounding the quantity. -/
theorem roundedMantissa (stands : Stands em q) : em.roundedMantissa = halfEven q := by
  have floor := stands.floor
  rcases stands with ⟨rest, nonneg, small, sticky, same⟩
  rcases em with ⟨m, _ | _, _ | _⟩
  · have none : rest = 0 := by simpa using sticky
    rw [halfEven, floor, if_pos (by simp only [same, none]; norm_num)]
    rfl
  · rw [halfEven, floor, if_pos (by simp only [same]; norm_num; linarith)]
    rfl
  · have none : rest = 0 := by simpa using sticky
    rw [halfEven, floor, if_neg (by simp only [same, none]; norm_num),
      if_neg (by simp only [same, none]; norm_num)]
    rfl
  · have some : 0 < rest := lt_of_le_of_ne nonneg (Ne.symm (by simpa using sticky))
    rw [halfEven, floor, if_neg (by simp only [same]; norm_num; linarith),
      if_pos (by simp only [same]; norm_num; linarith)]
    rfl

/-- A shift by one halves the quantity. -/
theorem shiftRightOne (stands : Stands em q) : Stands em.shiftRightOne (q / 2) := by
  rcases stands with ⟨rest, nonneg, small, sticky, same⟩
  have halves : (em.mantissa : ℚ) = 2 * (em.mantissa / 2 : ℕ) + (em.mantissa % 2 : ℕ) := by
    exact_mod_cast (Nat.div_add_mod em.mantissa 2).symm
  have lost : em.shiftRightOne.stickyBit = true ↔
      (if em.roundBit then (1 : ℚ) / 4 else 0) + rest / 2 ≠ 0 := by
    rcases em with ⟨m, _ | _, t⟩
    · simpa [ExtendedMantissa.shiftRightOne] using sticky
    · simp [ExtendedMantissa.shiftRightOne]
      linarith
  refine ⟨(if em.roundBit then 1 / 4 else 0) + rest / 2, ?_, ?_, lost, ?_⟩
  · split <;> linarith
  · split <;> linarith
  · rw [same, halves]
    rcases Nat.mod_two_eq_zero_or_one em.mantissa with even | odd
    · simp only [ExtendedMantissa.shiftRightOne, even]
      split <;> push_cast <;> norm_num <;> ring
    · simp only [ExtendedMantissa.shiftRightOne, odd]
      split <;> push_cast <;> norm_num <;> ring

theorem shiftRight (stands : Stands em q) (n : ℕ) : Stands (em >>> n) (q / 2 ^ n) := by
  induction n with
  | zero =>
      rw [pow_zero, div_one]
      exact stands
  | succ n ih =>
      rw [pow_succ, ← div_div]
      exact ih.shiftRightOne

theorem exact (m : ℕ) : Stands (.ofMantissaAndAccuracy m .exact) m :=
  ⟨0, le_rfl, by norm_num, by simp [ExtendedMantissa.ofMantissaAndAccuracy],
    by simp [ExtendedMantissa.ofMantissaAndAccuracy]⟩

/-- The accuracy of a fraction says where it lies. -/
theorem ofFraction (m : ℕ) {num den : ℕ} (below : num < den) :
    Stands (ExtendedMantissa.ofMantissaAndAccuracy m (accuracyOfFraction num den))
      (m + (num : ℚ) / den) := by
  have positive : (0 : ℚ) < den := by exact_mod_cast Nat.zero_lt_of_lt below
  have small : (num : ℚ) / den < 1 := (div_lt_one positive).mpr (by exact_mod_cast below)
  unfold accuracyOfFraction
  split
  · rename_i none
    exact ⟨0, le_rfl, by norm_num, by simp [ExtendedMantissa.ofMantissaAndAccuracy],
      by simp [ExtendedMantissa.ofMantissaAndAccuracy, none]⟩
  · rename_i some
    have above : (0 : ℚ) < num / den := div_pos (by exact_mod_cast Nat.pos_of_ne_zero some) positive
    cases side : compare (2 * num) den with
    | lt =>
        have side : ((2 * num : ℕ) : ℚ) < den := by exact_mod_cast Nat.compare_eq_lt.mp side
        push_cast at side
        refine ⟨num / den, above.le, ?_,
          by simp [ExtendedMantissa.ofMantissaAndAccuracy, above.ne'],
          by simp [ExtendedMantissa.ofMantissaAndAccuracy]⟩
        rw [div_lt_div_iff₀ positive two_pos]
        linarith
    | eq =>
        have side : ((2 * num : ℕ) : ℚ) = den := by exact_mod_cast Nat.compare_eq_eq.mp side
        push_cast at side
        refine ⟨0, le_rfl, by norm_num, by simp [ExtendedMantissa.ofMantissaAndAccuracy], ?_⟩
        simp only [ExtendedMantissa.ofMantissaAndAccuracy, ← side, if_true]
        field_simp
        ring
    | gt =>
        have side : (den : ℚ) < ((2 * num : ℕ) : ℚ) := by exact_mod_cast Nat.compare_eq_gt.mp side
        push_cast at side
        have half : 1 / 2 < (num : ℚ) / den := by
          rw [div_lt_div_iff₀ two_pos positive]
          linarith
        refine ⟨num / den - 1 / 2, by linarith, by linarith, ?_, ?_⟩
        · simp only [ExtendedMantissa.ofMantissaAndAccuracy, true_iff]
          linarith
        · simp only [ExtendedMantissa.ofMantissaAndAccuracy, if_true]
          ring

end Stands

/-! ## Rounding -/

/-- A quantity with a full mantissa, by its sign and its value. -/
inductive Amounts (s : Sign) (v : ℚ) : UnpackedFloat → Prop
  | finite {m : ℕ} {e : ℤ} (positive : 0 < m) (full : m.log2 = 52) (value : (m : ℚ) * 2 ^ e = v) :
      Amounts s v (.finite s m e positive)

section Rounding

variable {m : ℕ} {e t : ℤ} {s : Sign} {q v : ℚ} {a : Accuracy}

/-- A quantity that has at least the digits of a mantissa is rounded to a multiple of its unit. -/
theorem amounts_roundWithAccuracy
    (stands : Stands (ExtendedMantissa.ofMantissaAndAccuracy m a) q) (positive : m ≠ 0)
    (size : m.log2 + e = t + 52) (long : e ≤ t) (smallest : -1074 ≤ t) :
    Amounts s (halfEven (q * 2 ^ e / 2 ^ t) * 2 ^ t) (roundWithAccuracy binary64 s m e a) := by
  obtain ⟨n, rfl⟩ : ∃ n : ℕ, t = e + n := ⟨(t - e).toNat, by omega⟩
  have units : q * 2 ^ e / 2 ^ (e + n) = q / 2 ^ n := by
    rw [zpow_add₀ two_ne_zero, zpow_natCast]
    field_simp
  have rounded := roundedMantissa_cases (ExtendedMantissa.ofMantissaAndAccuracy m a >>> n)
  rw [mantissa_shiftRight, mantissa_ofMantissaAndAccuracy] at rounded
  obtain ⟨full, _, value⟩ :=
    full_of_rounded (log2_div_two_pow positive (by omega)) rounded smallest
  have notZero : ∀ k : ℕ, k.log2 = 52 → k ≠ 0 := by rintro k full rfl; simp at full
  simp only [roundWithAccuracy, shiftToTargetExponent_eq (n := n) (m := m) (e := e) a (by omega)]
  rw [dif_neg (notZero _ full)]
  refine .finite _ full ?_
  rw [value, (stands.shiftRight n).roundedMantissa, units]

/-- The unit of a quantity: it has as many units as a full mantissa can count. -/
def Scale (t : ℤ) (v : ℚ) : Prop :=
  2 ^ (t + 52) ≤ v ∧ v < 2 ^ (t + 53)

/-- A quantity rounded to a full mantissa. -/
def near (v : ℚ) : ℚ :=
  halfEven (v / 2 ^ (Int.log 2 v - 52)) * 2 ^ (Int.log 2 v - 52)

theorem Scale.positive (scale : Scale t v) : 0 < v :=
  lt_of_lt_of_le (zpow_pos two_pos _) scale.1

theorem scale_log (positive : 0 < v) : Scale (Int.log 2 v - 52) v := by
  constructor
  · have low := Int.zpow_log_le_self one_lt_two positive
    rwa [sub_add_cancel]
  · have high := Int.lt_zpow_succ_log_self (b := 2) one_lt_two v
    have next : Int.log 2 v - 52 + 53 = Int.log 2 v + 1 := by ring
    rwa [next]

theorem near_eq (scale : Scale t v) : near v = halfEven (v / 2 ^ t) * 2 ^ t := by
  have low := (Int.zpow_le_iff_le_log one_lt_two scale.positive).mp scale.1
  have high := (Int.lt_zpow_iff_log_lt one_lt_two scale.positive).mp scale.2
  have same : Int.log 2 v - 52 = t := by omega
  rw [near, same]

/-- Rounding leaves the scale or reaches its end. -/
theorem near_bounds (scale : Scale t v) : 2 ^ (t + 52) ≤ near v ∧ near v ≤ 2 ^ (t + 53) := by
  have unit : (0 : ℚ) < 2 ^ t := zpow_pos two_pos t
  have low : ((2 ^ 52 : ℕ) : ℚ) ≤ v / 2 ^ t := by
    rw [le_div_iff₀ unit]
    have least := scale.1
    rw [add_comm, zpow_add₀ two_ne_zero] at least
    exact_mod_cast least
  have high : v / 2 ^ t ≤ ((2 ^ 53 : ℕ) : ℚ) := by
    rw [div_le_iff₀ unit]
    have most := scale.2.le
    rw [add_comm, zpow_add₀ two_ne_zero] at most
    exact_mod_cast most
  rw [near_eq scale, add_comm t, add_comm t, zpow_add₀ two_ne_zero, zpow_add₀ two_ne_zero]
  constructor
  · exact mul_le_mul_of_nonneg_right (by exact_mod_cast le_halfEven low) unit.le
  · exact mul_le_mul_of_nonneg_right
      (by exact_mod_cast halfEven_le (le_trans (Nat.cast_nonneg _) low) high) unit.le

theorem two_zpow_lt {i j : ℤ} : (2 : ℚ) ^ i < 2 ^ j ↔ i < j :=
  zpow_lt_zpow_iff_right₀ one_lt_two

theorem log2_bounds (positive : 0 < m) (e : ℤ) :
    (2 : ℚ) ^ (m.log2 + e) ≤ m * 2 ^ e ∧ (m : ℚ) * 2 ^ e < 2 ^ (m.log2 + e + 1) := by
  have unit : (0 : ℚ) < 2 ^ e := zpow_pos two_pos e
  obtain ⟨low, high⟩ := (Nat.log2_eq_iff positive.ne').mp rfl
  have low : (2 : ℚ) ^ m.log2 ≤ m := by exact_mod_cast low
  have high : (m : ℚ) < 2 ^ (m.log2 + 1) := by exact_mod_cast high
  constructor
  · rw [zpow_add₀ two_ne_zero, zpow_natCast]
    exact mul_le_mul_of_nonneg_right low unit.le
  · rw [add_right_comm, zpow_add₀ two_ne_zero]
    exact mul_lt_mul_of_pos_right (by exact_mod_cast high) unit

/-- The number of digits of a quantity that is counted in small units. -/
theorem floor_log2 (scale : Scale t v) {unit : ℤ} {size : ℕ} (length : (size : ℤ) + unit = t + 52) :
    ⌊v / 2 ^ unit⌋₊.log2 = size := by
  have positive : (0 : ℚ) < 2 ^ unit := zpow_pos two_pos unit
  have least : (2 : ℚ) ^ size ≤ v / 2 ^ unit := by
    rw [le_div_iff₀ positive, ← zpow_natCast, ← zpow_add₀ two_ne_zero, length]
    exact scale.1
  have most : v / 2 ^ unit < (2 : ℚ) ^ (size + 1) := by
    rw [div_lt_iff₀ positive, ← zpow_natCast, ← zpow_add₀ two_ne_zero]
    have next : ((size + 1 : ℕ) : ℤ) + unit = t + 53 := by omega
    rw [next]
    exact scale.2
  have low : 2 ^ size ≤ ⌊v / 2 ^ unit⌋₊ := Nat.le_floor (by exact_mod_cast least)
  have high : ⌊v / 2 ^ unit⌋₊ < 2 ^ (size + 1) := by
    rw [Nat.floor_lt (le_trans (by positivity) least)]
    exact_mod_cast most
  have notZero : ⌊v / 2 ^ unit⌋₊ ≠ 0 := (lt_of_lt_of_le (by positivity) low).ne'
  exact (Nat.log2_eq_iff notZero).mpr ⟨low, high⟩

section Quotient

variable {m₁ m₂ : ℕ} {e₁ e₂ : ℤ}

/-- The sizes of the operands tell the size of a quotient, up to one digit. -/
theorem quotient_bounds (p₁ : 0 < m₁) (p₂ : 0 < m₂) (e₁ e₂ : ℤ) :
    (2 : ℚ) ^ (m₁.log2 + e₁ - (m₂.log2 + e₂) - 1) < m₁ * 2 ^ e₁ / (m₂ * 2 ^ e₂) ∧
      (m₁ : ℚ) * 2 ^ e₁ / (m₂ * 2 ^ e₂) < 2 ^ (m₁.log2 + e₁ - (m₂.log2 + e₂) + 1) := by
  have below : (0 : ℚ) < m₂ * 2 ^ e₂ := mul_pos (by exact_mod_cast p₂) (zpow_pos two_pos e₂)
  obtain ⟨low₁, high₁⟩ := log2_bounds p₁ e₁
  obtain ⟨low₂, high₂⟩ := log2_bounds p₂ e₂
  generalize (m₁.log2 : ℤ) + e₁ = size₁ at *
  generalize (m₂.log2 : ℤ) + e₂ = size₂ at *
  constructor
  · rw [lt_div_iff₀ below]
    calc (2 : ℚ) ^ (size₁ - size₂ - 1) * (m₂ * 2 ^ e₂)
        < 2 ^ (size₁ - size₂ - 1) * 2 ^ (size₂ + 1) :=
          mul_lt_mul_of_pos_left high₂ (zpow_pos two_pos _)
      _ = 2 ^ size₁ := by rw [← zpow_add₀ two_ne_zero]; ring_nf
      _ ≤ m₁ * 2 ^ e₁ := low₁
  · rw [div_lt_iff₀ below]
    calc (m₁ : ℚ) * 2 ^ e₁ < 2 ^ (size₁ + 1) := high₁
      _ = 2 ^ (size₁ - size₂ + 1) * 2 ^ size₂ := by rw [← zpow_add₀ two_ne_zero]; ring_nf
      _ ≤ 2 ^ (size₁ - size₂ + 1) * (m₂ * 2 ^ e₂) :=
          mul_le_mul_of_nonneg_left low₂ (zpow_pos two_pos _).le

/-- **A quotient is rounded once.**  What comes out depends only on its value. -/
theorem amounts_div {s₁ s₂ : Sign} (p₁ : 0 < m₁) (p₂ : 0 < m₂)
    (value : (m₁ : ℚ) * 2 ^ e₁ / (m₂ * 2 ^ e₂) = v) (scale : Scale t v) (normal : -1000 ≤ t) :
    Amounts (s₁ / s₂) (near v)
      (UnpackedFloat.div binary64 (.finite s₁ m₁ e₁ p₁) (.finite s₂ m₂ e₂ p₂)) := by
  obtain ⟨above, below⟩ := quotient_bounds p₁ p₂ e₁ e₂
  rw [value] at above below
  have low := two_zpow_lt.mp (above.trans scale.2)
  have high := two_zpow_lt.mp (scale.1.trans_lt below)
  have target : binary64.targetExponent (totalExponent m₁ e₁ - totalExponent m₂ e₂) =
      m₁.log2 + e₁ - (m₂.log2 + e₂) - 53 := by
    simp only [Format.targetExponent, totalExponent, Format.mantissaBits, Format.minExponent]
    norm_num
    omega
  obtain ⟨k, least⟩ : ∃ k : ℕ, e₁ - e₂ = min (e₁ - e₂) (m₁.log2 + e₁ - (m₂.log2 + e₂) - 53) + k :=
    ⟨(e₁ - e₂ - min (e₁ - e₂) (m₁.log2 + e₁ - (m₂.log2 + e₂) - 53)).toNat, by omega⟩
  have short : min (e₁ - e₂) (m₁.log2 + e₁ - (m₂.log2 + e₂) - 53) ≤ t := by omega
  simp only [UnpackedFloat.div, UnpackedFloat.divCore, target]
  generalize min (e₁ - e₂) (m₁.log2 + e₁ - (m₂.log2 + e₂) - 53) = unit at *
  have shift : (e₁ - e₂ - unit).toNat = k := by omega
  rw [shift]
  have stands := Stands.ofFraction (m₁ <<< k / m₂) (Nat.mod_lt (m₁ <<< k) p₂)
  have units : ((m₁ <<< k / m₂ : ℕ) : ℚ) + (m₁ <<< k % m₂ : ℕ) / m₂ = v / 2 ^ unit := by
    have split : ((m₁ <<< k : ℕ) : ℚ) = m₂ * (m₁ <<< k / m₂ : ℕ) + (m₁ <<< k % m₂ : ℕ) := by
      exact_mod_cast (Nat.div_add_mod (m₁ <<< k) m₂).symm
    have nonzero : (m₂ : ℚ) ≠ 0 := by exact_mod_cast p₂.ne'
    have exponents : (2 : ℚ) ^ e₁ = 2 ^ e₂ * 2 ^ unit * 2 ^ k := by
      rw [← zpow_natCast, ← zpow_add₀ two_ne_zero, ← zpow_add₀ two_ne_zero]
      congr 1
      omega
    have nonzero₂ : (2 : ℚ) ^ e₂ ≠ 0 := (zpow_pos two_pos e₂).ne'
    have nonzero₃ : (2 : ℚ) ^ unit ≠ 0 := (zpow_pos two_pos unit).ne'
    rw [← value, exponents]
    rw [Nat.shiftLeft_eq, Nat.cast_mul, Nat.cast_pow, Nat.cast_ofNat] at split
    rw [Nat.shiftLeft_eq]
    field_simp
    linarith
  rw [units] at stands
  obtain ⟨size, length⟩ : ∃ size : ℕ, (size : ℤ) + unit = t + 52 :=
    ⟨(t + 52 - unit).toNat, by omega⟩
  have mantissa : (m₁ <<< k / m₂).log2 = size := by
    have quantity := floor_log2 scale length
    rwa [stands.floor, mantissa_ofMantissaAndAccuracy] at quantity
  have notZero : m₁ <<< k / m₂ ≠ 0 := by
    intro none
    rw [none, Nat.log2_zero] at mantissa
    omega
  have rounded := amounts_roundWithAccuracy (s := s₁ / s₂) stands notZero
    (show ((m₁ <<< k / m₂).log2 : ℤ) + unit = t + 52 by omega) short (by omega)
  rw [near_eq scale]
  rwa [div_mul_cancel₀ v (zpow_pos two_pos unit).ne'] at rounded

end Quotient

end Rounding

/-! ## Decimals with a few places -/

section Places

variable {m n k : ℕ} {e : ℤ} {s : Sign} {v : ℚ} {a b : UnpackedFloat}

/-- A full mantissa and its exponent are told by the value. -/
theorem Amounts.unique (amounts : Amounts s v a) (amounts' : Amounts s v b) : a = b := by
  rcases amounts with @⟨m, e, positive, full, value⟩
  rcases amounts' with @⟨n, d, positive', full', value'⟩
  have bounds := log2_bounds positive e
  have bounds' := log2_bounds positive' d
  rw [full, value] at bounds
  rw [full', value'] at bounds'
  have low := two_zpow_lt.mp (bounds.1.trans_lt bounds'.2)
  have high := two_zpow_lt.mp (bounds'.1.trans_lt bounds.2)
  obtain rfl : e = d := by omega
  have mantissas : (m : ℚ) = n :=
    mul_right_cancel₀ (zpow_pos two_pos e).ne' (value.trans value'.symm)
  obtain rfl : m = n := by exact_mod_cast mantissas
  rfl

/-- Parts with a full mantissa are packed as they are, unless they are too large. -/
theorem Amounts.unpack_pack (amounts : Amounts s v a) (least : 2 ^ (-1022 : ℤ) ≤ v)
    (greatest : v < 2 ^ (1024 : ℤ)) : (Float.Model.pack a).unpack = a := by
  rcases amounts with @⟨m, e, positive, full, value⟩
  obtain ⟨low, high⟩ := (Nat.log2_eq_iff positive.ne').mp full
  have bounds := log2_bounds positive e
  rw [full, value] at bounds
  have below := two_zpow_lt.mp (bounds.1.trans_lt greatest)
  have above := two_zpow_lt.mp (least.trans_lt bounds.2)
  exact (Canonical.full positive low high (by omega) (by omega)).unpack_pack

/-- Parts that are too large are packed as infinity. -/
theorem Amounts.unpack_pack_of_large (amounts : Amounts s v a) (large : 2 ^ (1024 : ℤ) ≤ v) :
    (Float.Model.pack a).unpack = .infinity s := by
  rcases amounts with @⟨m, e, positive, full, value⟩
  have bounds := log2_bounds positive e
  rw [full, value] at bounds
  have above := two_zpow_lt.mp (large.trans_lt bounds.2)
  exact Decimal.unpack_pack_of_large positive (by omega)

/-- A whole number that fits a mantissa has a double of its own. -/
theorem parts_ofNat (positive : 0 < n) (few : n < 2 ^ 53) :
    Amounts .positive n (parts n.toUInt64.toFloat) := by
  have short : n.log2 ≤ 52 := Nat.le_of_lt_succ ((Nat.log2_lt positive.ne').mpr few)
  have amounts : Amounts .positive n (UnpackedFloat.ofNat binary64 n) := by
    have rounded := amounts_roundWithAccuracy (s := .positive) (t := n.log2 - 52)
      (Stands.exact (n <<< (52 - n.log2))) (by rw [Nat.shiftLeft_eq]; positivity)
      (by rw [log2_shiftLeft positive.ne']; omega) le_rfl (by omega)
    rw [mul_div_cancel_right₀ _ (zpow_pos two_pos _).ne', halfEven_natCast] at rounded
    have value : ((n <<< (52 - n.log2) : ℕ) : ℚ) * 2 ^ ((n.log2 : ℤ) - 52) = n := by
      have exponent : (n.log2 : ℤ) - 52 = -(52 - n.log2 : ℕ) := by omega
      rw [exponent, zpow_neg, zpow_natCast, Nat.shiftLeft_eq]
      push_cast
      exact mul_inv_cancel_right₀ (by positivity) _
    rw [ofNat_eq positive short]
    rwa [value] at rounded
  rw [parts_toFloat few, amounts.unpack_pack]
  · exact amounts
  · exact le_trans (zpow_le_one_of_nonpos₀ one_le_two (by decide)) (by exact_mod_cast positive)
  · calc (n : ℚ) < 2 ^ (53 : ℤ) := by exact_mod_cast few
      _ < 2 ^ (1024 : ℤ) := zpow_lt_zpow_right₀ one_lt_two (by decide)

/-- A decimal with up to three places is at least a thousandth. -/
theorem scale_places (positive : 0 < n) (few : k ≤ 3) :
    ∃ t : ℤ, -62 ≤ t ∧ Scale t ((n : ℚ) / 10 ^ k) := by
  have least : (2 : ℚ) ^ (-10 : ℤ) ≤ n / 10 ^ k := by
    rw [le_div_iff₀ (by positivity)]
    calc (2 : ℚ) ^ (-10 : ℤ) * 10 ^ k ≤ 2 ^ (-10 : ℤ) * 10 ^ 3 :=
          mul_le_mul_of_nonneg_left (pow_le_pow_right₀ (by norm_num) few) (by positivity)
      _ ≤ 1 := by norm_num
      _ ≤ n := by exact_mod_cast positive
  have some : (0 : ℚ) < n / 10 ^ k := lt_of_lt_of_le (by positivity) least
  have log := (Int.zpow_le_iff_le_log one_lt_two some).mp least
  exact ⟨Int.log 2 ((n : ℚ) / 10 ^ k) - 52, by omega, scale_log some⟩

/-- The powers of ten by which the places of a decimal are divided off. -/
theorem parts_powerOfTen (some : 0 < k) (few : k ≤ 3)
    (inside : k < Float.exactlyRepresentablePowersOfTen.size) :
    Amounts .positive (10 ^ k) (parts Float.exactlyRepresentablePowersOfTen[k]) := by
  have ten : parts (Float.ofBits 0x4024000000000000) =
      .finite .positive (5 * 2 ^ 50) (-49) (by decide) := rfl
  have hundred : parts (Float.ofBits 0x4059000000000000) =
      .finite .positive (25 * 2 ^ 48) (-46) (by decide) := rfl
  have thousand : parts (Float.ofBits 0x408F400000000000) =
      .finite .positive (125 * 2 ^ 46) (-43) (by decide) := rfl
  obtain rfl | rfl | rfl : k = 1 ∨ k = 2 ∨ k = 3 := by omega
  · show Amounts .positive (10 ^ 1) (parts (Float.ofBits 0x4024000000000000))
    rw [ten]
    exact .finite _ (by decide +kernel) (by norm_num)
  · show Amounts .positive (10 ^ 2) (parts (Float.ofBits 0x4059000000000000))
    rw [hundred]
    exact .finite _ (by decide +kernel) (by norm_num)
  · show Amounts .positive (10 ^ 3) (parts (Float.ofBits 0x408F400000000000))
    rw [thousand]
    exact .finite _ (by decide +kernel) (by norm_num)

theorem parts_ofScientific (positive : 0 < n) (some : 0 < k) (few : k ≤ 3) :
    ∃ a, Amounts .positive (near (n / 10 ^ k)) a ∧
      parts (Float.ofScientific n true k) = (Float.Model.pack a).unpack := by
  obtain ⟨t, normal, scale⟩ := scale_places positive few
  unfold Float.ofScientific
  split
  · rename_i small
    have dividend := parts_ofNat positive small.1
    have inside : k < Float.exactlyRepresentablePowersOfTen.size :=
      Nat.lt_of_le_of_lt few (by decide)
    have divisor := parts_powerOfTen some few inside
    refine ⟨_, ?_, rfl⟩
    show Amounts _ _ (UnpackedFloat.div binary64 (parts n.toUInt64.toFloat) (parts _))
    generalize parts n.toUInt64.toFloat = a at dividend ⊢
    generalize parts Float.exactlyRepresentablePowersOfTen[k] = b at divisor ⊢
    rcases dividend with ⟨p₁, _, value₁⟩
    rcases divisor with ⟨p₂, _, value₂⟩
    show Amounts (.positive / .positive) _ _
    exact amounts_div p₁ p₂ (by rw [value₁, value₂]) scale (by omega)
  · have power : (if (true : Bool) then Int.negOfNat k else Int.ofNat k) = -k := Int.negOfNat_eq
    have bits : (2 : ℤ) ^ binary64.exponentBits = 2048 := rfl
    have below : 0 < 10 ^ k := Nat.pow_pos (by decide)
    have divided : Amounts (.positive / .positive) (near (n / 10 ^ k)) (UnpackedFloat.div binary64
        (.finite .positive n 0 positive) (.finite .positive (10 ^ k) 0 below)) :=
      amounts_div positive below (by simp) scale (by omega)
    refine ⟨_, divided, ?_⟩
    show (Float.Model.pack (UnpackedFloat.ofScientific binary64 n _)).unpack = _
    rw [power, UnpackedFloat.ofScientific, dif_neg positive.ne', if_neg (by omega),
      if_neg (by omega), if_neg (by omega)]
    simp only [neg_neg, Int.toNat_natCast]

/-- **The double of a decimal** with up to three places depends only on its value. -/
theorem parts_nearest (positive : 0 < n) (some : 0 < k) (few : k ≤ 3) :
    ∃ a, Amounts .positive (near (n / 10 ^ k)) a ∧
      parts (nearest n (-k)) = (Float.Model.pack a).unpack := by
  obtain ⟨a, amounts, same⟩ := parts_ofScientific positive some few
  refine ⟨a, amounts, ?_⟩
  unfold nearest
  rw [if_neg positive.ne']
  split
  · rename_i huge
    have large : (2 : ℚ) ^ (1024 : ℤ) ≤ near (n / 10 ^ k) := by
      obtain ⟨t, _, scale⟩ := scale_places positive few
      have least : (2 : ℚ) ^ (1060 - 10 : ℤ) ≤ n / 10 ^ k := by
        rw [le_div_iff₀ (by positivity)]
        have digits := (log2_bounds positive 0).1
        rw [add_zero, zpow_zero, mul_one] at digits
        calc (2 : ℚ) ^ (1060 - 10 : ℤ) * 10 ^ k ≤ 2 ^ (1060 - 10 : ℤ) * 2 ^ (10 : ℤ) :=
              mul_le_mul_of_nonneg_left (le_trans (pow_le_pow_right₀ (by norm_num) few)
                (by norm_num)) (by positivity)
          _ = 2 ^ (1060 : ℤ) := by rw [← zpow_add₀ two_ne_zero]; norm_num
          _ ≤ 2 ^ (n.log2 : ℤ) := zpow_le_zpow_right₀ one_le_two (by omega)
          _ ≤ n := digits
      have size := two_zpow_lt.mp (least.trans_lt scale.2)
      exact le_trans (zpow_le_zpow_right₀ one_le_two (by omega)) (near_bounds scale).1
    rw [amounts.unpack_pack_of_large large]
    rfl
  · rw [if_neg (by omega), ← same]
    simp [some]

/-- Zeros at the end of a decimal do not matter. -/
theorem nearest_mul_pow (n : ℕ) {i : ℕ} (some : 0 < k) (few : k + i ≤ 3) :
    nearest (n * 10 ^ i) (-(k + i : ℕ)) = nearest n (-k) := by
  rcases Nat.eq_zero_or_pos n with rfl | positive
  · rw [Nat.zero_mul, nearest, nearest, if_pos rfl, if_pos rfl]
  · have value : ((n * 10 ^ i : ℕ) : ℚ) / 10 ^ (k + i) = n / 10 ^ k := by
      push_cast
      rw [pow_add, mul_div_mul_right _ _ (by positivity)]
    have scaled : 0 < n * 10 ^ i := Nat.mul_pos positive (Nat.pow_pos (by decide))
    obtain ⟨a, amounts, same⟩ := parts_nearest scaled (Nat.add_pos_left some i) few
    obtain ⟨b, amounts', same'⟩ := parts_nearest positive some (Nat.le_of_add_right_le few)
    rw [value] at amounts
    rw [amounts.unique amounts'] at same
    exact eq_of_parts (same.trans same'.symm)

end Places

end CaptureDesk.Decimal
