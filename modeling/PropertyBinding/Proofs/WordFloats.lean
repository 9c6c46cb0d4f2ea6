import Mathlib.Algebra.Group.Nat.Defs
import PropertyBinding.Value

/-! # Words have finite nearest doubles

A word is far below the range of doubles.  Rounding moves the exponent up by no more bits
than the mantissa has, so that no rounded word gets near the greatest exponent, which stands
for infinity (`isFinite_toFloat`).
-/
namespace PropertyBinding

open Float.Model Float.Model.UnpackedFloat

/-! ## Exponents of rounded mantissas -/

theorem mantissa_shiftRight_le (em : ExtendedMantissa) (n : Nat) :
    (em >>> n).mantissa ≤ em.mantissa := by
  change (n.repeat ExtendedMantissa.shiftRightOne em).mantissa ≤ em.mantissa
  induction n with
  | zero => exact Nat.le_refl _
  | succ n ih =>
    have hhalf : (n.repeat ExtendedMantissa.shiftRightOne em).mantissa / 2 ≤ em.mantissa :=
      Nat.le_trans (Nat.div_le_self _ 2) ih
    exact hhalf

theorem roundedMantissa_le (em : ExtendedMantissa) : em.roundedMantissa ≤ em.mantissa + 1 := by
  unfold ExtendedMantissa.roundedMantissa Accuracy.roundToNearestEven
  split <;> omega

theorem mantissa_ofMantissaAndAccuracy (mantissa : Nat) (accuracy : Accuracy) :
    (ExtendedMantissa.ofMantissaAndAccuracy mantissa accuracy).mantissa = mantissa := by
  unfold ExtendedMantissa.ofMantissaAndAccuracy
  split <;> rfl

theorem targetExponent_binary64 (total : Int) :
    Format.binary64.targetExponent total = max (total - 53) (-1074) := rfl

/-- A shift to the target exponent does not lengthen the mantissa, and lifts the exponent by
at most as many bits as the mantissa has. -/
theorem shiftToTargetExponent_le {mantissa bits : Nat} {exponent bound : Int}
    (accuracy : Accuracy) (hm : mantissa < 2 ^ bits) (he : exponent ≤ bound) (hb : 0 ≤ bound) :
    (shiftToTargetExponent .binary64 mantissa exponent accuracy).1.mantissa ≤ mantissa ∧
      (shiftToTargetExponent .binary64 mantissa exponent accuracy).2 ≤ bound + bits := by
  constructor
  · have hshift := mantissa_shiftRight_le
      (ExtendedMantissa.ofMantissaAndAccuracy mantissa accuracy)
      (Format.binary64.targetExponent (totalExponent mantissa exponent) - exponent).toNat
    rw [mantissa_ofMantissaAndAccuracy] at hshift
    exact hshift
  · have hlog : mantissa.log2 ≤ bits := by
      by_cases hzero : mantissa = 0
      · subst hzero
        exact Nat.zero_le _
      · exact Nat.le_of_lt ((Nat.log2_lt hzero).mpr hm)
    simp only [shiftToTargetExponent, shiftToExponent, targetExponent_binary64, totalExponent]
    omega

/-- A float is a number with an exponent up to a bound. -/
def Below (bound : Int) : UnpackedFloat → Prop
  | .zero _ => True
  | .finite _ _ exponent _ => exponent ≤ bound
  | _ => False

/-- What is zero in one case is judged by the other. -/
theorem below_dite {bound : Int} {p : Prop} [Decidable p] {sign : Sign} {f : ¬p → UnpackedFloat}
    (h : ∀ hp, Below bound (f hp)) : Below bound (if hp : p then .zero sign else f hp) := by
  by_cases hp : p
  · rw [dif_pos hp]
    trivial
  · rw [dif_neg hp]
    exact h hp

/-- Rounding lifts the exponent by at most as many bits as the mantissa has, twice: once
for the bits that are dropped, and once more if the mantissa has overflowed. -/
theorem below_roundWithAccuracy {mantissa bits : Nat} {exponent : Int} (sign : Sign)
    (hm : mantissa < 2 ^ bits) (he : exponent ≤ 0) :
    Below (2 * bits + 1) (roundWithAccuracy .binary64 sign mantissa exponent .exact) := by
  obtain ⟨hm₁, he₁⟩ := shiftToTargetExponent_le .exact hm he (Int.le_refl 0)
  have hrounded : (shiftToTargetExponent .binary64 mantissa exponent .exact).1.roundedMantissa <
      2 ^ (bits + 1) := by
    have hstep := roundedMantissa_le (shiftToTargetExponent .binary64 mantissa exponent .exact).1
    have hpos : 0 < 2 ^ bits := Nat.two_pow_pos bits
    rw [Nat.pow_succ]
    omega
  obtain ⟨-, he₂⟩ := shiftToTargetExponent_le .exact hrounded he₁ (by omega)
  unfold roundWithAccuracy
  dsimp only
  refine below_dite fun _ => ?_
  push_cast at he₂
  show _ ≤ _
  omega

theorem below_round {mantissa bits : Nat} (sign : Sign) (hm : mantissa < 2 ^ bits) :
    Below (2 * (bits + 53) + 1) (round .binary64 sign mantissa 0) := by
  have hshift : mantissa <<< (0 - Format.binary64.targetExponent (totalExponent mantissa 0)).toNat <
      2 ^ (bits + 53) := by
    rw [Nat.shiftLeft_eq, Nat.pow_add]
    refine Nat.mul_lt_mul_of_lt_of_le hm (Nat.pow_le_pow_right (by omega) ?_) (Nat.two_pow_pos _)
    rw [targetExponent_binary64, totalExponent]
    omega
  exact below_roundWithAccuracy sign hshift (by omega)

/-! ## Packing -/

/-- Only the greatest exponent stands for what is not finite. -/
theorem isFinite_unpack {bits : BitVec 64} (h : @unpackExponent .binary64 bits ≠ -1#11) :
    (UnpackedFloat.unpack .binary64 bits).isFinite = true := by
  unfold UnpackedFloat.unpack
  dsimp only
  rw [if_neg h]
  by_cases hexponent : @unpackExponent .binary64 bits = 0#11
  · rw [if_pos hexponent]
    by_cases hmantissa : @unpackMantissa .binary64 bits = 0#52
    · rw [dif_pos hmantissa]
      rfl
    · rw [dif_neg hmantissa]
      rfl
  · rw [if_neg hexponent]
    rfl

theorem pack_finite (sign : Sign) (mantissa : Nat) (exponent : Int) (positive : 0 < mantissa) :
    UnpackedFloat.pack .binary64 (.finite sign mantissa exponent positive) =
      if 2 ^ 11 ≤ (exponent + 1023 + 52).toNat + 1 then packedInfinity .binary64 sign
      else if mantissa.log2 + 1 = 53 then
        packComponents .binary64 sign (BitVec.ofNat 11 (exponent + 1023 + 52).toNat)
          (BitVec.ofNat 52 mantissa)
      else packComponents .binary64 sign 0#11 (BitVec.ofNat 52 mantissa) := rfl

theorem isFinite_pack {f : UnpackedFloat} {bound : Int} (h : Below bound f) (hb : bound ≤ 970) :
    (Float.Model.pack f).isFinite = true := by
  apply isFinite_unpack
  show @unpackExponent .binary64 (UnpackedFloat.pack .binary64 f) ≠ -1#11
  cases f with
  | notANumber => cases h
  | infinity s => cases h
  | zero s =>
    show @unpackExponent .binary64 (packComponents .binary64 s 0 0) ≠ -1#11
    rw [unpackExponent_packComponents]
    decide
  | finite s m e pos =>
    have he : e ≤ bound := h
    have hbiased : (e + 1023 + 52).toNat < 2047 := by omega
    rw [pack_finite, if_neg (show ¬2 ^ 11 ≤ (e + 1023 + 52).toNat + 1 by omega)]
    split
    · rw [unpackExponent_packComponents]
      intro hmax
      have hnat : (BitVec.ofNat 11 (e + 1023 + 52).toNat).toNat = 2047 :=
        congrArg BitVec.toNat hmax
      rw [BitVec.toNat_ofNat] at hnat
      omega
    · rw [unpackExponent_packComponents]
      decide

/-! ## Words -/

theorem isFinite_toFloat (n : UInt64) : n.toFloat.isFinite = true := by
  have hlt : n.toNat < 2 ^ 64 := n.toNat_lt
  have hzero : Below 0 (.zero .positive) := trivial
  show (Float.Model.pack
    (UnpackedFloat.normalize .binary64 (n.toNat : Int) 0 .positive)).isFinite = true
  unfold UnpackedFloat.normalize
  split
  · next h => exact absurd (Int.compare_eq_lt.mp h) (by omega)
  · exact isFinite_pack hzero (by omega)
  · exact isFinite_pack (below_round .positive hlt) (by omega)

end PropertyBinding
