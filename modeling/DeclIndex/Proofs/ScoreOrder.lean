import DeclIndex.Search.Rank
import Mathlib.Algebra.GroupWithZero.Nat
import Mathlib.Algebra.Ring.Int.Defs

/-!
# The order of scores

Items are sorted by whole numbers that are made from the bits of their scores. On numbers this is the order of binary64 itself:
read as a whole number, exponent and mantissa together grow with what they stand for, and both zeros have the key zero.
-/

namespace DeclIndex.Search
open Float.Model Float.Model.UnpackedFloat

/-! ## The fields of a binary64 number -/

section Fields

variable (bits : BitVec Format.binary64.numBits)

theorem toNat_mantissa : (unpackMantissa bits).toNat = bits.toNat % 2 ^ 52 := by
  simp [unpackMantissa]

theorem toNat_exponent : (unpackExponent bits).toNat = bits.toNat / 2 ^ 52 % 2 ^ 11 := by
  simp [unpackExponent, Nat.shiftRight_eq_div_pow]

theorem toNat_sign : (unpackSign bits).toNat = bits.toNat / 2 ^ 63 := by
  have size : bits.toNat < 2 ^ 64 := bits.isLt
  unfold unpackSign
  simp [Nat.shiftRight_eq_div_pow]
  omega

end Fields

theorem toNat_implicitBit (mantissa : BitVec 52) : (1#1 ++ mantissa).toNat = 2 ^ 52 + mantissa.toNat := by
  rw [BitVec.toNat_append, ← Nat.shiftLeft_add_eq_or_of_lt mantissa.isLt]
  simp [Nat.shiftLeft_eq]

/-! ## Keys -/

/-- A number has a key. Subnormal numbers share the least exponent with the first normal ones. -/
inductive HasKey : UnpackedFloat → Int → Prop
  | zero (sign : Sign) : HasKey (.zero sign) 0
  | infinity (sign : Sign) : HasKey (.infinity sign) (sign.apply (2047 * 2 ^ 52))
  | finite (sign : Sign) (mantissa : Nat) (exponent : Int) (positive : 0 < mantissa) (fits : mantissa < 2 ^ 53)
      (least : -1074 ≤ exponent) (greatest : exponent ≤ 971) (normal : exponent = -1074 ∨ 2 ^ 52 ≤ mantissa) :
      HasKey (.finite sign mantissa exponent positive) (sign.apply ((exponent + 1074) * 2 ^ 52 + mantissa))

theorem apply_ofBitVec (sign : BitVec 1) (n : Int) :
    (Sign.ofBitVec sign).apply n = if sign.toNat = 1 then -n else n := by
  have cases : sign = 0#1 ∨ sign = 1#1 := by
    revert sign
    decide
  rcases cases with rfl | rfl <;> rfl

/-- The magnitude bits are the exponent and the mantissa put together. -/
theorem magnitude_eq (bits : BitVec Format.binary64.numBits) :
    bits.toNat % 2 ^ 63 = (unpackExponent bits).toNat * 2 ^ 52 + (unpackMantissa bits).toNat := by
  rw [toNat_mantissa, toNat_exponent]
  omega

theorem hasKey_bits (bits : BitVec Format.binary64.numBits)
    (number : (UnpackedFloat.unpack .binary64 bits).isNaN = false) :
    HasKey (UnpackedFloat.unpack .binary64 bits)
      ((Sign.ofBitVec (unpackSign bits)).apply (bits.toNat % 2 ^ 63 : Nat)) := by
  have bias : (Format.binary64.exponentBias : Int) = 1023 := rfl
  have exponentSize : (unpackExponent bits).toNat < 2 ^ 11 := (unpackExponent bits).isLt
  have mantissaSize : (unpackMantissa bits).toNat < 2 ^ 52 := (unpackMantissa bits).isLt
  rw [magnitude_eq]
  unfold UnpackedFloat.unpack at number ⊢
  dsimp only at number ⊢
  generalize Sign.ofBitVec (unpackSign bits) = sign at *
  by_cases full : unpackExponent bits = -1#_
  · rw [if_pos full] at number ⊢
    by_cases noMantissa : unpackMantissa bits = 0#_
    · rw [if_pos noMantissa, full, noMantissa]
      exact .infinity _
    · rw [if_neg noMantissa] at number
      cases number
  · rw [if_neg full]
    have below : (unpackExponent bits).toNat ≠ 2047 := fun same => full (BitVec.eq_of_toNat_eq same)
    by_cases least : unpackExponent bits = 0#_
    · have zero : (unpackExponent bits).toNat = 0 := congrArg BitVec.toNat least
      rw [if_pos least]
      by_cases noMantissa : unpackMantissa bits = 0#_
      · have none : (unpackMantissa bits).toNat = 0 := congrArg BitVec.toNat noMantissa
        have key : sign.apply (0 * 2 ^ 52 + 0 : Nat) = 0 := by
          cases sign <;> rfl
        rw [dif_pos noMantissa, zero, none, key]
        exact .zero _
      · rw [dif_neg noMantissa]
        have key : ((unpackExponent bits).toNat * 2 ^ 52 + (unpackMantissa bits).toNat : Nat) =
            ((unpackExponent bits).toNat - (Format.binary64.exponentBias + (52 : Nat)) + 1 + 1074 : Int) * 2 ^ 52 +
              (unpackMantissa bits).toNat := by
          omega
        rw [key]
        exact .finite _ _ _ _ (by omega) (by omega) (by omega) (.inl (by omega))
    · have nonzero : (unpackExponent bits).toNat ≠ 0 := fun same => least (BitVec.eq_of_toNat_eq same)
      have implicitBit := toNat_implicitBit (unpackMantissa bits)
      rw [if_neg least]
      have key : ((unpackExponent bits).toNat * 2 ^ 52 + (unpackMantissa bits).toNat : Nat) =
          ((unpackExponent bits).toNat - (Format.binary64.exponentBias + (52 : Nat)) + 1074 : Int) * 2 ^ 52 +
            (1#1 ++ unpackMantissa bits).toNat := by
        omega
      rw [key]
      exact .finite _ _ _ _ (by omega) (by omega) (by omega) (.inr (by omega))

/-! ## Comparing -/

theorem compare_neg (a b : Int) : compare (-a) (-b) = (compare a b).swap := by
  rcases Int.lt_trichotomy a b with less | rfl | greater
  · rw [Int.compare_eq_lt.mpr less, Int.compare_eq_gt.mpr (by omega)]
    rfl
  · rw [Int.compare_eq_eq.mpr rfl, Int.compare_eq_eq.mpr rfl]
    rfl
  · rw [Int.compare_eq_gt.mpr greater, Int.compare_eq_lt.mpr (by omega)]
    rfl

theorem compare_finite {mantissa mantissa' : Nat} {exponent exponent' : Int} (fits : mantissa < 2 ^ 53)
    (fits' : mantissa' < 2 ^ 53) (least : -1074 ≤ exponent) (least' : -1074 ≤ exponent')
    (normal : exponent = -1074 ∨ 2 ^ 52 ≤ mantissa) (normal' : exponent' = -1074 ∨ 2 ^ 52 ≤ mantissa') :
    (compare exponent exponent').then (compare mantissa mantissa') =
      compare ((exponent + 1074) * 2 ^ 52 + mantissa) ((exponent' + 1074) * 2 ^ 52 + mantissa') := by
  rcases Int.lt_trichotomy exponent exponent' with lower | rfl | higher
  · rw [Int.compare_eq_lt.mpr lower, Int.compare_eq_lt.mpr (by omega)]
    rfl
  · rw [Int.compare_eq_eq.mpr rfl, Ordering.eq_then]
    rcases Nat.lt_trichotomy mantissa mantissa' with less | rfl | greater
    · rw [Nat.compare_eq_lt.mpr less, Int.compare_eq_lt.mpr (by omega)]
    · rw [Nat.compare_eq_eq.mpr rfl, Int.compare_eq_eq.mpr rfl]
    · rw [Nat.compare_eq_gt.mpr greater, Int.compare_eq_gt.mpr (by omega)]
  · rw [Int.compare_eq_gt.mpr higher, Int.compare_eq_gt.mpr (by omega)]
    rfl

theorem lt_of_keys {j k : Int} (less : j < k) : some Ordering.lt = some (compare j k) :=
  congrArg some (Int.compare_eq_lt.mpr less).symm

theorem gt_of_keys {j k : Int} (greater : k < j) : some Ordering.gt = some (compare j k) :=
  congrArg some (Int.compare_eq_gt.mpr greater).symm

theorem compare_eq {u v : UnpackedFloat} {j k : Int} (left : HasKey u j) (right : HasKey v k) :
    u.compare v = some (compare j k) := by
  cases left with
  | zero sign =>
    cases right with
    | zero sign' => rfl
    | infinity sign' => cases sign' <;> rfl
    | finite sign' mantissa' exponent' positive' fits' least' greatest' normal' =>
      cases sign' with
      | negative => exact gt_of_keys (by simp only [Sign.apply]; omega)
      | positive => exact lt_of_keys (by simp only [Sign.apply]; omega)
  | infinity sign =>
    cases right with
    | zero sign' => cases sign <;> rfl
    | infinity sign' => cases sign <;> cases sign' <;> rfl
    | finite sign' mantissa' exponent' positive' fits' least' greatest' normal' =>
      cases sign with
      | negative => exact lt_of_keys (by cases sign' <;> simp only [Sign.apply] <;> omega)
      | positive => exact gt_of_keys (by cases sign' <;> simp only [Sign.apply] <;> omega)
  | finite sign mantissa exponent positive fits least greatest normal =>
    cases right with
    | zero sign' =>
      cases sign with
      | negative => exact lt_of_keys (by simp only [Sign.apply]; omega)
      | positive => exact gt_of_keys (by simp only [Sign.apply]; omega)
    | infinity sign' =>
      cases sign' with
      | negative => exact gt_of_keys (by cases sign <;> simp only [Sign.apply] <;> omega)
      | positive => exact lt_of_keys (by cases sign <;> simp only [Sign.apply] <;> omega)
    | finite sign' mantissa' exponent' positive' fits' least' greatest' normal' =>
      have magnitudes := compare_finite fits fits' least least' normal normal'
      cases sign with
      | negative =>
        cases sign' with
        | negative =>
          -- the greater magnitude has the lesser key
          have swapped := (congrArg Ordering.swap magnitudes).trans (compare_neg _ _).symm
          exact congrArg some swapped
        | positive => exact lt_of_keys (by simp only [Sign.apply]; omega)
      | positive =>
        cases sign' with
        | negative => exact gt_of_keys (by simp only [Sign.apply]; omega)
        | positive => exact congrArg some magnitudes

/-! ## Numbers -/

theorem hasKey_orderKey {x : Float} (number : x.isNaN = false) : HasKey x.toModel.unpack (orderKey x) := by
  have key : orderKey x =
      (Sign.ofBitVec (@unpackSign .binary64 x.toBits.toBitVec)).apply (x.toBits.toBitVec.toNat % 2 ^ 63 : Nat) := by
    rw [apply_ofBitVec, toNat_sign]
    rfl
  rw [key]
  exact hasKey_bits _ number

theorem eq_notANumber {u : UnpackedFloat} (noNumber : u.isNaN) : u = .notANumber := by
  cases u with
  | notANumber => rfl
  | _ => cases noNumber

/-- Numbers are compared like their keys, and what is no number compares with nothing. -/
theorem compare_orderKey (x y : Float) :
    x.toModel.unpack.compare y.toModel.unpack =
      if x.isNaN = false ∧ y.isNaN = false then some (compare (orderKey x) (orderKey y)) else none := by
  cases left : x.isNaN with
  | true =>
    rw [eq_notANumber left]
    rfl
  | false =>
    cases right : y.isNaN with
    | true =>
      rw [eq_notANumber right]
      cases x.toModel.unpack <;> rfl
    | false => exact compare_eq (hasKey_orderKey left) (hasKey_orderKey right)

theorem lt_iff_orderKey {x y : Float} :
    x < y ↔ (x.isNaN = false ∧ y.isNaN = false) ∧ orderKey x < orderKey y := by
  have compared : x < y ↔ x.toModel.unpack.compare y.toModel.unpack = some .lt :=
    decide_eq_true_iff.trans beq_iff_eq
  rw [compared, compare_orderKey]
  split
  next numbers => rw [and_iff_right numbers, Option.some.injEq, Int.compare_eq_lt]
  next noNumbers => exact iff_of_false nofun fun less => noNumbers less.1

theorem beq_iff_orderKey {x y : Float} :
    x == y ↔ (x.isNaN = false ∧ y.isNaN = false) ∧ orderKey x = orderKey y := by
  have compared : x == y ↔ x.toModel.unpack.compare y.toModel.unpack = some .eq :=
    @beq_iff_eq (Option Ordering) _ _ _ _
  rw [compared, compare_orderKey]
  split
  next numbers => rw [and_iff_right numbers, Option.some.injEq, Std.compare_eq_iff_eq]
  next noNumbers => exact iff_of_false nofun fun same => noNumbers same.1

end DeclIndex.Search
