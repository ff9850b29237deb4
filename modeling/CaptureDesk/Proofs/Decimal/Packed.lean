import CaptureDesk.Decimal.Binary
import Mathlib

/-!
# Doubles and their parts

A double is told by its parts, which are those of the quantity that its bits stand for
(`ofFloat_eq`), and parts that a double can have are not changed when they are packed
(`Canonical.unpack_pack`).
-/

namespace CaptureDesk.Decimal

open Float.Model (Format UnpackedFloat)
open Float.Model.Format (binary64)
open Float.Model.UnpackedFloat (Sign unpackExponent unpackExponent_packComponents unpackMantissa
  unpackMantissa_packComponents unpackSign unpackSign_packComponents)

/-- The sign, the mantissa and the exponent of a double. -/
def parts (x : Float) : UnpackedFloat := x.toModel.unpack

/-- The parts that a double can have.  A mantissa that is not full has the least exponent. -/
inductive Canonical : UnpackedFloat → Prop
  | notANumber : Canonical .notANumber
  | infinity (s : Sign) : Canonical (.infinity s)
  | zero (s : Sign) : Canonical (.zero s)
  | full {s : Sign} {m : Nat} {e : Int} (positive : 0 < m) (low : 2 ^ 52 ≤ m) (high : m < 2 ^ 53)
      (least : -1074 ≤ e) (greatest : e ≤ 971) : Canonical (.finite s m e positive)
  | short {s : Sign} {m : Nat} (positive : 0 < m) (high : m < 2 ^ 52) :
      Canonical (.finite s m (-1074) positive)

section Packing

variable {a : UnpackedFloat} {s : Sign} {m : Nat} {e : Int}

theorem ofNat_ne_top {e : Nat} (inRange : ¬ 2 ^ 11 ≤ e + 1) : BitVec.ofNat 11 e ≠ -1#11 := by
  simp [← BitVec.toNat_inj]
  omega

/-- A full mantissa is its leading digit and the rest. -/
theorem toNat_one_append_ofNat {m : Nat} (low : 2 ^ 52 ≤ m) (high : m < 2 ^ 53) :
    (1#1 ++ BitVec.ofNat 52 m).toNat = m := by
  rw [BitVec.toNat_append, ← Nat.shiftLeft_add_eq_or_of_lt (BitVec.isLt _), BitVec.toNat_ofNat]
  simp
  omega

theorem biased_eq (e : Int) :
    (e + binary64.exponentBias + (52 : Nat)).toNat = (e + 1075).toNat := by
  norm_num [Format.exponentBias]
  omega

/-- A quantity that is too large for a double is packed as infinity. -/
theorem unpack_pack_of_large (positive : 0 < m) (large : 971 < e) :
    (Float.Model.pack (.finite s m e positive)).unpack = .infinity s := by
  have beyond : 2 ^ 11 ≤ (e + 1075).toNat + 1 := by omega
  simp only [Float.Model.pack, Float.Model.unpack, UnpackedFloat.pack, biased_eq, if_pos beyond]
  cases s <;> rfl

theorem Canonical.neg (canonical : Canonical a) : Canonical a.neg := by
  cases canonical with
  | notANumber => exact .notANumber
  | infinity => exact .infinity _
  | zero => exact .zero _
  | full positive low high least greatest => exact .full positive low high least greatest
  | short positive high => exact .short positive high

/-- Packing does not change them. -/
theorem Canonical.unpack_pack (canonical : Canonical a) : (Float.Model.pack a).unpack = a := by
  cases canonical with
  | notANumber => rfl
  | infinity s => cases s <;> rfl
  | zero s => cases s <;> rfl
  | @full s m e positive low high least greatest =>
      have full : m.log2 = 52 := (Nat.log2_eq_iff positive.ne').mpr ⟨low, high⟩
      have inRange : ¬ 2 ^ 11 ≤ (e + 1075).toNat + 1 := by omega
      have notBottom : BitVec.ofNat 11 (e + 1075).toNat ≠ 0#11 := by
        simp [← BitVec.toNat_inj]
        omega
      simp only [Float.Model.pack, Float.Model.unpack, UnpackedFloat.pack, biased_eq]
      rw [if_neg inRange, if_pos (by simp [full, Format.mantissaBits])]
      simp only [UnpackedFloat.unpack, unpackMantissa_packComponents,
        unpackExponent_packComponents, unpackSign_packComponents, Sign.ofBitVec_toBitVec]
      rw [if_neg (ofNat_ne_top inRange), if_neg notBottom]
      simp only [toNat_one_append_ofNat low high, UnpackedFloat.finite.injEq, true_and]
      norm_num [Format.exponentBias]
      omega
  | @short s m positive high =>
      have few : m.log2 < 52 := (Nat.log2_lt positive.ne').mpr high
      have some : BitVec.ofNat 52 m ≠ 0#52 := by
        simp [← BitVec.toNat_inj]
        omega
      have notTop : (0#11 : BitVec 11) ≠ -1#11 := by decide
      simp only [Float.Model.pack, Float.Model.unpack, UnpackedFloat.pack]
      rw [if_neg (by decide), if_neg (by simp [Format.mantissaBits]; omega)]
      simp only [UnpackedFloat.unpack, unpackMantissa_packComponents,
        unpackExponent_packComponents, unpackSign_packComponents, Sign.ofBitVec_toBitVec,
        if_neg notTop, if_true, dif_neg some, UnpackedFloat.finite.injEq, true_and]
      constructor
      · simp
        omega
      · norm_num [Format.exponentBias]

/-- What a sign, a biased exponent and the digits after the first one stand for. -/
inductive Encodes (s : Sign) (scale fraction : Nat) : UnpackedFloat → Prop
  | notANumber (top : scale = 2047) (some : fraction ≠ 0) : Encodes s scale fraction .notANumber
  | infinity (top : scale = 2047) (none : fraction = 0) : Encodes s scale fraction (.infinity s)
  | zero (bottom : scale = 0) (none : fraction = 0) : Encodes s scale fraction (.zero s)
  | short (bottom : scale = 0) (positive : 0 < fraction) :
      Encodes s scale fraction (.finite s fraction (-1074) positive)
  | full {m : Nat} {e : Int} (low : 0 < scale) (high : scale < 2047) (positive : 0 < m)
      (digits : m = 2 ^ 52 + fraction) (exponent : e = scale - 1075) :
      Encodes s scale fraction (.finite s m e positive)

theorem encodes_unpack (b : BitVec binary64.numBits) :
    Encodes (.ofBitVec (unpackSign b)) (unpackExponent b).toNat (unpackMantissa b).toNat
      (UnpackedFloat.unpack binary64 b) := by
  have bias : (binary64.exponentBias : Int) = 1023 := rfl
  have bound : (unpackExponent b).toNat < 2 ^ 11 := (unpackExponent b).isLt
  have room := (unpackMantissa b).isLt
  unfold UnpackedFloat.unpack
  dsimp only
  split
  · rename_i top
    split
    · rename_i none
      exact .infinity (congrArg BitVec.toNat top) (congrArg BitVec.toNat none)
    · rename_i some
      exact .notANumber (congrArg BitVec.toNat top) fun none => some (BitVec.toNat_inj.mp none)
  · rename_i notTop
    split
    · rename_i bottom
      split
      · rename_i none
        exact .zero (congrArg BitVec.toNat bottom) (congrArg BitVec.toNat none)
      · have least : ((unpackExponent b).toNat : Int) -
            (binary64.exponentBias + (52 : Nat)) + 1 = -1074 := by
          rw [bottom, bias]
          rfl
        rw [least]
        exact .short (congrArg BitVec.toNat bottom) _
    · rename_i notBottom
      have top : (unpackExponent b).toNat ≠ 2047 := fun top => notTop (BitVec.toNat_inj.mp top)
      have bottom : (unpackExponent b).toNat ≠ 0 := fun bottom =>
        notBottom (BitVec.toNat_inj.mp bottom)
      refine .full (by omega) (by omega) _ ?_ ?_
      · rw [BitVec.toNat_append, ← Nat.shiftLeft_add_eq_or_of_lt room]
        rfl
      · rw [bias]
        omega

end Packing

/-! ## Doubles -/

section Parts

variable {x y : Float}

/-- The parts of a double are read off its bits. -/
theorem encodes_parts (x : Float) :
    Encodes (if 2 ^ 63 ≤ x.toBits.toNat then .negative else .positive)
      (x.toBits.toNat / 2 ^ 52 % 2 ^ 11) (x.toBits.toNat % 2 ^ 52) (parts x) := by
  have encodes := encodes_unpack x.toBits.toBitVec
  have bound : x.toBits.toNat < 2 ^ 64 := x.toBits.toBitVec.isLt
  have sign : (@unpackSign binary64 x.toBits.toBitVec).toNat = x.toBits.toNat / 2 ^ 63 := by
    show (x.toBits.toNat >>> 63) % 2 = _
    rw [Nat.shiftRight_eq_div_pow, Nat.mod_eq_of_lt (by omega)]
  have scale : (@unpackExponent binary64 x.toBits.toBitVec).toNat =
      x.toBits.toNat / 2 ^ 52 % 2 ^ 11 := by
    show (x.toBits.toNat >>> 52) % 2 ^ 11 = _
    rw [Nat.shiftRight_eq_div_pow]
  have fraction : (@unpackMantissa binary64 x.toBits.toBitVec).toNat =
      x.toBits.toNat % 2 ^ 52 := rfl
  have same : Sign.ofBitVec (@unpackSign binary64 x.toBits.toBitVec) =
      if 2 ^ 63 ≤ x.toBits.toNat then .negative else .positive := by
    unfold Sign.ofBitVec
    split
    · rename_i plus
      have none : x.toBits.toNat / 2 ^ 63 = 0 := sign ▸ congrArg BitVec.toNat plus
      rw [if_neg (by omega)]
    · rename_i minus
      have some : x.toBits.toNat / 2 ^ 63 ≠ 0 := by
        intro none
        exact minus (BitVec.toNat_inj.mp (sign.trans none))
      rw [if_pos (by omega)]
  rwa [same, scale, fraction] at encodes

theorem eq_of_parts (same : parts x = parts y) : x = y :=
  Float.toBits_inj.mp (UInt64.toBitVec_inj.mp
    ((UnpackedFloat.unpack_inj_of_valid x.toModel.valid y.toModel.valid).mp same))

theorem canonical_parts (x : Float) : Canonical (parts x) := by
  have bound : x.toBits.toNat / 2 ^ 52 % 2 ^ 11 < 2 ^ 11 := Nat.mod_lt _ (by decide)
  have room : x.toBits.toNat % 2 ^ 52 < 2 ^ 52 := Nat.mod_lt _ (by decide)
  have encodes := encodes_parts x
  generalize parts x = a at encodes ⊢
  cases encodes with
  | notANumber => exact .notANumber
  | infinity => exact .infinity _
  | zero => exact .zero _
  | short _ positive => exact .short positive room
  | full low high positive digits exponent =>
      exact .full positive (by omega) (by omega) (by omega) (by omega)

theorem parts_neg (x : Float) : parts (-x) = (parts x).neg :=
  (canonical_parts x).neg.unpack_pack

/-- Whether a sign is the minus. -/
def isMinus : Sign → Bool
  | .negative => true
  | .positive => false

/-- The quantity that parts stand for. -/
def Binary.ofParts : UnpackedFloat → Binary
  | .notANumber => .nan
  | .infinity s => .infinite (isMinus s)
  | .zero s => .finite (isMinus s) 0 (-1074)
  | .finite s m e _ => .finite (isMinus s) m e

/-- The quantity that the bits of a double stand for is that of its parts. -/
theorem ofFloat_eq (x : Float) : Binary.ofFloat x = .ofParts (parts x) := by
  have encodes := encodes_parts x
  have sign : isMinus (if 2 ^ 63 ≤ x.toBits.toNat then .negative else .positive) =
      decide (1 <<< 63 ≤ x.toBits.toNat) := by
    by_cases negative : 2 ^ 63 ≤ x.toBits.toNat
    · rw [if_pos negative]
      exact (decide_eq_true negative).symm
    · rw [if_neg negative]
      exact (decide_eq_false negative).symm
  simp only [Binary.ofFloat, Binary.ofBits]
  generalize parts x = a at encodes ⊢
  simp only [← sign, show 1 <<< 52 = 2 ^ 52 from rfl, show 1 <<< 11 = 2 ^ 11 from rfl]
  generalize (if 2 ^ 63 ≤ x.toBits.toNat then .negative else .positive : Sign) = s at *
  generalize x.toBits.toNat / 2 ^ 52 % 2 ^ 11 = scale at *
  generalize x.toBits.toNat % 2 ^ 52 = fraction at *
  cases encodes with
  | notANumber top some => rw [if_pos top, if_neg some, Binary.ofParts]
  | infinity top none => rw [if_pos top, if_pos none, Binary.ofParts]
  | zero bottom none => rw [if_neg (by omega), if_pos bottom, none, Binary.ofParts]
  | short bottom positive => rw [if_neg (by omega), if_pos bottom, Binary.ofParts]
  | full low high positive digits exponent =>
      rw [if_neg (by omega), if_neg (by omega), Binary.ofParts, digits, exponent]

end Parts

end CaptureDesk.Decimal
