import CaptureDesk.Proofs.Decimal.Packed

/-!
# Doubles between zero and one

A double is compared, negated, added and multiplied through its sign, its mantissa and its
exponent.  Of the whole numbers only zero and one have a double between zero and one; and a sum of
two doubles between zero and one is a number, so that it is on one side of any other.
-/

namespace CaptureDesk.Decimal

open Float.Model (Format UnpackedFloat totalExponent)
open Float.Model.Format (binary64)
open Float.Model.UnpackedFloat (Accuracy ExtendedMantissa Sign packComponents roundWithAccuracy
  shiftToExponent shiftToTargetExponent unpackExponent_packComponents unpackMantissa_packComponents)

theorem parts_zero : parts 0 = .zero .positive := rfl

theorem parts_one : parts 1 = .finite .positive (2 ^ 52) (-52) (by decide) := rfl

section Order

variable {x y : Float}

theorem le_iff_isLE : x ≤ y ↔ ((parts x).compare (parts y)).any (·.isLE) = true :=
  decide_eq_true_iff

theorem lt_iff_compare : x < y ↔ (parts x).compare (parts y) = some .lt :=
  decide_eq_true_iff.trans beq_iff_eq

/-- The order the other way around. -/
theorem compare_swap (a b : UnpackedFloat) :
    b.compare a = (a.compare b).map Ordering.swap := by
  have signs (s t : Sign) : compare t s = (compare s t).swap := by cases s <;> cases t <;> rfl
  have digits (d e : Int) (m n : Nat) :
      (compare d e).then (compare m n) = ((compare e d).then (compare n m)).swap := by
    rw [Ordering.swap_then, ← Int.compare_swap, Nat.compare_swap]
  cases a with
  | notANumber => cases b <;> rfl
  | infinity s =>
      cases b with
      | infinity t => simp [UnpackedFloat.compare, signs s t]
      | _ => cases s <;> rfl
  | zero s =>
      cases b with
      | infinity t => cases t <;> rfl
      | finite t => cases t <;> rfl
      | _ => rfl
  | finite s m d =>
      cases b with
      | infinity t => cases t <;> rfl
      | finite t n e =>
          cases s <;> cases t <;>
            simp [UnpackedFloat.compare, digits d e m n]
      | notANumber => cases s <;> rfl
      | zero t => cases s <;> rfl

end Order

section Packing

/-- A quantity with the given sign and a full mantissa whose exponent is at least `k`. -/
inductive Reaches (k : Int) (s : Sign) : UnpackedFloat → Prop
  | infinite : Reaches k s (.infinity s)
  | finite {m : Nat} {e : Int} (positive : 0 < m) (full : m.log2 = 52) (reached : k ≤ e) :
      Reaches k s (.finite s m e positive)

variable {k : Int} {s : Sign} {a b : UnpackedFloat}

/-- What remains of a quantity with a full mantissa when it is packed: its exponent can be too
large, but not too small. -/
theorem Reaches.repacked (smallest : -1074 ≤ k) (reaches : Reaches k s a) :
    Reaches k s (Float.Model.pack a).unpack := by
  cases reaches with
  | infinite => cases s <;> exact .infinite
  | @finite m e positive full reached =>
      obtain ⟨low, high⟩ := (Nat.log2_eq_iff positive.ne').mp full
      by_cases greatest : e ≤ 971
      · rw [(Canonical.full positive low high (by omega) greatest).unpack_pack]
        exact .finite positive full reached
      · rw [unpack_pack_of_large positive (by omega)]
        exact .infinite

end Packing

section Rounding

variable {m n : Nat} {e t : Int} {s : Sign}

theorem log2_shiftLeft (positive : m ≠ 0) : (m <<< n).log2 = m.log2 + n := by
  rw [Nat.shiftLeft_eq, Nat.log2_eq_iff (by positivity), Nat.pow_add, Nat.add_right_comm,
    Nat.pow_add]
  exact ⟨Nat.mul_le_mul_right _ (Nat.log2_self_le positive),
    Nat.mul_lt_mul_of_pos_right Nat.lt_log2_self (by positivity)⟩

theorem log2_div_two_pow {k : Nat} (positive : m ≠ 0) (size : m.log2 = k + n) :
    (m / 2 ^ n).log2 = k := by
  obtain ⟨low, high⟩ := (Nat.log2_eq_iff positive).1 size
  rw [Nat.pow_add] at low
  rw [Nat.add_right_comm, Nat.pow_add] at high
  have least : 2 ^ k ≤ m / 2 ^ n := (Nat.le_div_iff_mul_le (by positivity)).2 low
  have : 0 < 2 ^ k := by positivity
  exact (Nat.log2_eq_iff (by omega)).2 ⟨least, (Nat.div_lt_iff_lt_mul (by positivity)).2 high⟩

theorem targetExponent_eq (m : Nat) (e : Int) :
    binary64.targetExponent (totalExponent m e) = max (m.log2 + e - 52) (-1074) := by
  simp only [Format.targetExponent, totalExponent, Format.mantissaBits, Format.minExponent]
  norm_num
  omega

theorem mantissa_shiftRight (em : ExtendedMantissa) (n : Nat) :
    (em >>> n).mantissa = em.mantissa / 2 ^ n := by
  induction n with
  | zero => exact (Nat.div_one _).symm
  | succ n ih =>
      calc (em >>> n).mantissa / 2 = em.mantissa / 2 ^ n / 2 := by rw [ih]
        _ = em.mantissa / 2 ^ (n + 1) := by rw [Nat.div_div_eq_div_mul, Nat.pow_succ]

/-- Rounding leaves a mantissa or takes the next one. -/
theorem roundedMantissa_cases (em : ExtendedMantissa) :
    em.roundedMantissa = em.mantissa ∨ em.roundedMantissa = em.mantissa + 1 := by
  obtain ⟨m, round, sticky⟩ := em
  cases round <;> cases sticky <;>
    simp [ExtendedMantissa.roundedMantissa, ExtendedMantissa.accuracy,
      Accuracy.roundToNearestEven]
  omega

theorem mantissa_ofMantissaAndAccuracy (m : Nat) (a : Accuracy) :
    (ExtendedMantissa.ofMantissaAndAccuracy m a).mantissa = m := by
  rcases a with _ | _ | _ | _ <;> rfl

/-- The shift that brings a quantity to the exponent at which it is kept. -/
theorem shiftToTargetExponent_eq (a : Accuracy) (kept : max (m.log2 + e - 52) (-1074) = e + n) :
    shiftToTargetExponent binary64 m e a =
      (ExtendedMantissa.ofMantissaAndAccuracy m a >>> n, e + n) := by
  have shift : (e + n - e).toNat = n := by omega
  simp only [shiftToTargetExponent, targetExponent_eq, kept, shiftToExponent, shift]

/-- A mantissa that was rounded up can have one digit more, which is then dropped.  It is a zero. -/
theorem full_of_rounded (full : m.log2 = 52) (rounded : n = m ∨ n = m + 1)
    (smallest : -1074 ≤ t) :
    (shiftToTargetExponent binary64 n t .exact).1.mantissa.log2 = 52 ∧
      t ≤ (shiftToTargetExponent binary64 n t .exact).2 ∧
      ((shiftToTargetExponent binary64 n t .exact).1.mantissa : ℚ) *
        2 ^ (shiftToTargetExponent binary64 n t .exact).2 = n * 2 ^ t := by
  obtain ⟨low, high⟩ := (Nat.log2_eq_iff (by rintro rfl; simp at full)).1 full
  by_cases carry : n = 2 ^ 53
  · rw [carry, shiftToTargetExponent_eq (n := 1) .exact (by rw [Nat.log2_two_pow]; omega)]
    have dropped : (ExtendedMantissa.ofMantissaAndAccuracy (2 ^ 53) .exact >>> 1).mantissa =
        2 ^ 52 := by
      rw [mantissa_shiftRight]
      decide +kernel
    refine ⟨by rw [dropped]; decide +kernel, by omega, ?_⟩
    rw [dropped, zpow_add₀ two_ne_zero]
    push_cast
    ring
  · have kept : n.log2 = 52 := (Nat.log2_eq_iff (by omega)).2 (by omega)
    rw [shiftToTargetExponent_eq (n := 0) .exact (by omega)]
    have same : (ExtendedMantissa.ofMantissaAndAccuracy n .exact >>> 0).mantissa = n := by
      rw [mantissa_shiftRight, Nat.pow_zero, Nat.div_one, mantissa_ofMantissaAndAccuracy]
    refine ⟨by rw [same, kept], by omega, ?_⟩
    rw [same, Nat.cast_zero, add_zero]

/-- A quantity that has at least the digits of a mantissa keeps its size when it is rounded. -/
theorem reaches_roundWithAccuracy (a : Accuracy) (positive : m ≠ 0) (size : m.log2 + e = t + 52)
    (long : e ≤ t) (smallest : -1074 ≤ t) : Reaches t s (roundWithAccuracy binary64 s m e a) := by
  obtain ⟨n, rfl⟩ : ∃ n : Nat, t = e + n := ⟨(t - e).toNat, by omega⟩
  have rounded := roundedMantissa_cases (ExtendedMantissa.ofMantissaAndAccuracy m a >>> n)
  rw [mantissa_shiftRight, mantissa_ofMantissaAndAccuracy] at rounded
  obtain ⟨full, reached, _⟩ :=
    full_of_rounded (log2_div_two_pow positive (by omega)) rounded smallest
  have notZero : ∀ k : Nat, k.log2 = 52 → k ≠ 0 := by rintro k full rfl; simp at full
  simp only [roundWithAccuracy, shiftToTargetExponent_eq (n := n) (m := m) (e := e) a (by omega)]
  rw [dif_neg (notZero _ full)]
  exact .finite _ full reached

end Rounding

section Whole

variable {n : Nat} {k : Int} {a : UnpackedFloat}

theorem Reaches.weaken {j : Int} {s : Sign} (reaches : Reaches k s a) (below : j ≤ k) :
    Reaches j s a := by
  cases reaches with
  | infinite => exact .infinite
  | finite _ full reached => exact .finite _ full (by omega)

theorem Reaches.neg (reaches : Reaches k .positive a) : Reaches k .negative a.neg := by
  cases reaches with
  | infinite => exact .infinite
  | finite _ full reached => exact .finite _ full reached

theorem Reaches.mul_one (smallest : -1074 ≤ k) (reaches : Reaches k .positive a) :
    Reaches k .positive (UnpackedFloat.mul binary64 a (parts 1)) := by
  cases reaches with
  | infinite => exact .infinite
  | @finite m e positive full reached =>
      have size : (m * 2 ^ 52).log2 = 104 := by
        rw [← Nat.shiftLeft_eq, log2_shiftLeft (by omega), full]
      have rounded : Reaches e .positive
          (roundWithAccuracy binary64 .positive (m * 2 ^ 52) (e + -52) .exact) :=
        reaches_roundWithAccuracy .exact (by omega) (by omega) (by omega) (by omega)
      exact rounded.weaken reached

/-- A whole number that has no more digits than a mantissa is filled up with zeros. -/
theorem ofNat_eq (positive : 0 < n) (short : n.log2 ≤ 52) :
    UnpackedFloat.ofNat binary64 n =
      roundWithAccuracy binary64 .positive (n <<< (52 - n.log2)) (n.log2 - 52) .exact := by
  have sign : compare (n : Int) 0 = .gt := by
    rw [Int.compare_eq_gt]; omega
  have shift : (0 - binary64.targetExponent (totalExponent n 0)).toNat = 52 - n.log2 := by
    rw [targetExponent_eq]; omega
  have exponent : (0 : Int) - (52 - n.log2 : Nat) = n.log2 - 52 := by omega
  simp only [UnpackedFloat.ofNat, UnpackedFloat.ofInt, UnpackedFloat.normalize, sign,
    UnpackedFloat.round, UnpackedFloat.decreaseExponent, Int.toNat_natCast, shift, exponent]

/-- Its double is about as large as the number. -/
theorem reaches_ofNat (positive : 0 < n) (short : n.log2 ≤ 52) :
    Reaches (n.log2 - 52) .positive (UnpackedFloat.ofNat binary64 n) := by
  rw [ofNat_eq positive short]
  refine reaches_roundWithAccuracy .exact ?_ ?_ ?_ ?_
  · rw [Nat.shiftLeft_eq]; positivity
  · rw [log2_shiftLeft (by omega)]; omega
  · omega
  · omega

/-- A machine word is converted as the number that it holds. -/
theorem parts_toFloat (few : n < 2 ^ 53) :
    parts n.toUInt64.toFloat = (Float.Model.pack (UnpackedFloat.ofNat binary64 n)).unpack := by
  have word : n < 2 ^ 64 := few.trans (by decide)
  exact congrArg (fun n => (Float.Model.pack (UnpackedFloat.ofNat binary64 n)).unpack)
    (UInt64.toNat_ofNat_of_lt' word)

/-- The double of a whole number of any length. -/
theorem reaches_ofScientific (positive : 0 < n) :
    Reaches (n.log2 - 52) .positive (UnpackedFloat.ofScientific binary64 n 0) := by
  have mantissa : n <<< 53 * 10 ^ (0 : Int).toNat = n <<< 53 := Nat.mul_one _
  have rounded : Reaches (n.log2 - 52) .positive (roundWithAccuracy binary64 .positive
      (n <<< 53 * 10 ^ (0 : Int).toNat) (-53 + 0) .exact) := by
    rw [mantissa]
    refine reaches_roundWithAccuracy .exact ?_ ?_ ?_ ?_
    · rw [Nat.shiftLeft_eq]; positivity
    · rw [log2_shiftLeft (by omega)]; omega
    · omega
    · omega
  have bits : (0 : Int) < 2 ^ binary64.exponentBits := by decide
  rw [UnpackedFloat.ofScientific, dif_neg (by omega), if_neg (by omega), if_neg (by omega),
    if_pos (by omega)]
  exact rounded

/-- The double that is nearest to a whole number is about as large as the number. -/
theorem reaches_nearest (positive : 0 < n) (within : n < beyondFloat) :
    Reaches (n.log2 - 52) .positive (parts (nearest n 0)) := by
  have short : n.log2 < 1024 :=
    (Nat.log2_lt (by omega)).2 (within.trans (by decide +kernel))
  have read : nearest n 0 = Float.ofScientific n false 0 := by
    rw [nearest, if_neg (by omega), if_neg (by omega), if_neg (by omega)]
    rfl
  rw [read, Float.ofScientific]
  -- A number that fits a mantissa is converted exactly and then multiplied by one; any other is
  -- rounded once.
  split
  · rename_i few
    have short : n.log2 ≤ 52 := Nat.le_of_lt_succ ((Nat.log2_lt (by omega)).2 few.1)
    have kept : Reaches (n.log2 - 52) .positive (parts n.toUInt64.toFloat) := by
      rw [parts_toFloat few.1]
      exact (reaches_ofNat positive short).repacked (by omega)
    exact (kept.mul_one (by omega)).repacked (by omega)
  · exact (reaches_ofScientific positive).repacked (by omega)

theorem Reaches.not_le_one {x : Float} (reaches : Reaches k .positive (parts x))
    (above : -52 < k) : ¬ x ≤ 1 := by
  rw [le_iff_isLE, parts_one]
  generalize parts x = a at reaches
  cases reaches with
  | infinite => decide
  | @finite m e _ _ reached =>
      have beyond : compare e (-52) = .gt := Int.compare_eq_gt.2 (by omega)
      simp [UnpackedFloat.compare, beyond]

theorem Reaches.not_nonneg {x : Float} (reaches : Reaches k .negative (parts x)) : ¬ 0 ≤ x := by
  rw [le_iff_isLE, parts_zero]
  generalize parts x = a at reaches
  cases reaches <;> exact Bool.false_ne_true

/-- Of the whole numbers only zero and one have their double between zero and one. -/
theorem unit_iff_of_ofInt? {n : Int} {x : Float} (double : ofInt? n = some x) :
    0 ≤ x ∧ x ≤ 1 ↔ 0 ≤ n ∧ n ≤ 1 := by
  have within : n.natAbs < beyondFloat := by
    by_contra beyond
    simp [ofInt?, beyond] at double
  simp only [ofInt?, if_pos within, Option.some.injEq] at double
  obtain negative | rfl | rfl | large : n < 0 ∨ n = 0 ∨ n = 1 ∨ 2 ≤ n := by omega
  · have reaches := (reaches_nearest (by omega) within).neg.repacked (by omega)
    rw [if_pos negative] at double
    have : ¬ 0 ≤ x := double ▸ reaches.not_nonneg
    constructor
    · exact fun unit => absurd unit.1 this
    · omega
  · subst double; decide
  · subst double; decide
  · have size : 1 ≤ n.natAbs.log2 := (Nat.le_log2 (by omega)).2 (by omega)
    have reaches := reaches_nearest (by omega) within
    rw [if_neg (by omega)] at double
    have : ¬ x ≤ 1 := double ▸ reaches.not_le_one (by omega)
    constructor
    · exact fun unit => absurd unit.2 this
    · omega

theorem ofInt?_of_unit {n : Int} (low : 0 ≤ n) (high : n ≤ 1) :
    ofInt? n = some (Float.ofInt n) := by
  obtain rfl | rfl : n = 0 ∨ n = 1 := by omega
  · decide
  · decide

end Whole

section Sums

variable {a b : UnpackedFloat} {x y : Float}

theorem isFinite_of_unit (low : 0 ≤ x) (high : x ≤ 1) : (parts x).isFinite = true := by
  rw [le_iff_isLE, parts_zero] at low
  rw [le_iff_isLE, parts_one] at high
  generalize parts x = a at low high ⊢
  match a with
  | .notANumber => exact absurd low Bool.false_ne_true
  | .infinity .negative => exact absurd low Bool.false_ne_true
  | .infinity .positive => exact absurd high Bool.false_ne_true
  | .zero _ => rfl
  | .finite .. => rfl

theorem isNaN_roundWithAccuracy (s : Sign) (m : Nat) (e : Int) (accuracy : Accuracy) :
    (roundWithAccuracy binary64 s m e accuracy).isNaN = false := by
  unfold roundWithAccuracy
  dsimp only
  split <;> rfl

theorem isNaN_normalize (m e : Int) :
    (UnpackedFloat.normalize binary64 m e .positive).isNaN = false := by
  unfold UnpackedFloat.normalize
  split
  · exact isNaN_roundWithAccuracy ..
  · rfl
  · exact isNaN_roundWithAccuracy ..

/-- A sum of finite quantities is a number. -/
theorem isNaN_add (aFinite : a.isFinite = true) (bFinite : b.isFinite = true) :
    (UnpackedFloat.add binary64 a b).isNaN = false := by
  match a, b with
  | .zero s, .zero t => cases s <;> cases t <;> rfl
  | .zero s, .finite .. => rfl
  | .finite .., .zero _ => rfl
  | .finite .., .finite .. => exact isNaN_normalize ..

theorem isNaN_unpack_packComponents {s : Sign} {e : BitVec 11} {m : BitVec 52}
    (notTop : e ≠ -1#11) :
    (UnpackedFloat.unpack binary64 (packComponents binary64 s e m)).isNaN = false := by
  simp only [UnpackedFloat.unpack, unpackMantissa_packComponents, unpackExponent_packComponents]
  rw [if_neg notTop]
  split
  · split <;> rfl
  · rfl

theorem isNaN_repacked (number : a.isNaN = false) :
    (Float.Model.pack a).unpack.isNaN = false := by
  cases a with
  | notANumber => cases number
  | infinity s => cases s <;> rfl
  | zero s => cases s <;> rfl
  | finite s m e _ =>
      simp only [Float.Model.pack, Float.Model.unpack, UnpackedFloat.pack]
      split
      · cases s <;> rfl
      · rename_i inRange
        split
        · exact isNaN_unpack_packComponents (ofNat_ne_top inRange)
        · exact isNaN_unpack_packComponents (by decide)

theorem isSome_compare (aNumber : a.isNaN = false) (bNumber : b.isNaN = false) :
    (a.compare b).isSome = true := by
  fun_cases UnpackedFloat.compare a b <;> simp_all [UnpackedFloat.isNaN]

/-- Of two numbers one is below the other or at least as large. -/
theorem lt_iff_not_le (xNumber : (parts x).isNaN = false) (yNumber : (parts y).isNaN = false) :
    y < x ↔ ¬ x ≤ y := by
  obtain ⟨order, compared⟩ := Option.isSome_iff_exists.1 (isSome_compare xNumber yNumber)
  rw [lt_iff_compare, le_iff_isLE, compare_swap, compared]
  cases order <;> decide

/-- A sum of two doubles between zero and one is not above a number exactly when it is at most
that number. -/
theorem add_le_iff_not_lt {z : Float} (xUnit : 0 ≤ x ∧ x ≤ 1) (yUnit : 0 ≤ y ∧ y ≤ 1)
    (number : (parts z).isNaN = false) : x + y ≤ z ↔ ¬ z < x + y := by
  have sum : (parts (x + y)).isNaN = false :=
    isNaN_repacked
      (isNaN_add (isFinite_of_unit xUnit.1 xUnit.2) (isFinite_of_unit yUnit.1 yUnit.2))
  rw [lt_iff_not_le sum number, not_not]

end Sums

end CaptureDesk.Decimal
