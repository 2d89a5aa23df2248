import TensorRuntime.Kernel.Accelerator
import TensorRuntime.Proofs.Numeric.PositiveSingle

/-!
Quotients of positive finite singles. They are numbers and not below zero, so what a
positive value is stored as is never below the zero point.
-/

namespace TensorRuntime

open Float.Model (Format UnpackedFloat)

namespace Single

inductive NonNegative : UnpackedFloat → Prop where
  | infinity : NonNegative (.infinity .positive)
  | zero : NonNegative (.zero .positive)
  | finite (mantissa : Nat) (exponent : Int) (above : 0 < mantissa) :
      NonNegative (.finite .positive mantissa exponent above)

theorem toNat_packComponents_le {exponent : BitVec 8} (mantissa : BitVec 23)
    (finite : exponent.toNat < 255) :
    (UnpackedFloat.packComponents Format.binary32 .positive exponent mantissa).toNat ≤
      BinaryFormat.single.infinityBits := by
  have infinity : BinaryFormat.single.infinityBits = 2139095040 := by decide
  have below := mantissa.isLt
  rw [toNat_packComponents, infinity]
  omega

theorem toNat_pack_le {number : UnpackedFloat} (sign : NonNegative number) :
    (UnpackedFloat.pack Format.binary32 number).toNat ≤ BinaryFormat.single.infinityBits := by
  have infinity : (UnpackedFloat.packedInfinity Format.binary32 .positive).toNat ≤
      BinaryFormat.single.infinityBits := by decide
  cases sign with
  | infinity => exact infinity
  | zero => decide
  | finite mantissa exponent above =>
      delta UnpackedFloat.pack
      dsimp only
      split
      · exact infinity
      · rename_i bounded
        split
        · refine toNat_packComponents_le _ ?_
          rw [BitVec.toNat_ofNat]
          omega
        · exact toNat_packComponents_le _ (by decide)

theorem nonNegative_of_mantissa (mantissa : Nat) (exponent : Int) :
    NonNegative (if vanished : mantissa = 0 then .zero .positive
      else .finite .positive mantissa exponent (Nat.pos_of_ne_zero vanished)) := by
  by_cases vanished : mantissa = 0
  · rw [dif_pos vanished]
    exact .zero
  · rw [dif_neg vanished]
    exact .finite _ _ _

theorem nonNegative_round (mantissa : Nat) (exponent : Int) (accuracy : UnpackedFloat.Accuracy) :
    NonNegative (UnpackedFloat.roundWithAccuracy Format.binary32 .positive mantissa exponent
      accuracy) :=
  nonNegative_of_mantissa _ _

theorem toNat_div_le {first second : Single} (firstUsable : first.isPositiveFinite = true)
    (secondUsable : second.isPositiveFinite = true) :
    (first / second).bits.toNat ≤ BinaryFormat.single.infinityBits := by
  obtain ⟨firstAbove, firstUnpacked⟩ := unpack_toFloat32 firstUsable
  obtain ⟨secondAbove, secondUnpacked⟩ := unpack_toFloat32 secondUsable
  have divided : (first / second).bits.toNat =
      (UnpackedFloat.pack Format.binary32 (UnpackedFloat.div Format.binary32
        first.toFloat32.toModel.unpack second.toFloat32.toModel.unpack)).toNat := rfl
  rw [divided, firstUnpacked, secondUnpacked]
  exact toNat_pack_le (nonNegative_round _ _ _)

theorem decode_of_le {value : Single}
    (bound : value.bits.toNat ≤ BinaryFormat.single.infinityBits) :
    value.decode = .infinite false ∨
      ∃ significand exponent, value.decode = .finite false significand exponent := by
  have infinity : BinaryFormat.single.infinityBits = 2139095040 := by decide
  have binade : BinaryFormat.single.binade = 8388608 := by decide
  have signBit : BinaryFormat.single.signBit = 2147483648 := by decide
  have fields : 1 <<< BinaryFormat.single.exponentBits = 256 := by decide
  have positive : (value.bits.toNat / 2147483648 % 2 == 1) = false := by
    rw [beq_eq_false_iff_ne]
    omega
  unfold decode BinaryFormat.decode
  rw [binade, signBit, fields, positive]
  dsimp only
  split
  · rw [if_pos (by omega)]
    exact .inl rfl
  · split
    · exact .inr ⟨_, _, rfl⟩
    · exact .inr ⟨_, _, rfl⟩

theorem six_isPositiveFinite : (6 : Single).isPositiveFinite = true := by decide +kernel

end Single

theorem roundHalfAway_nonneg {value : Rat} (nonneg : 0 ≤ value) : 0 ≤ roundHalfAway value := by
  unfold roundHalfAway
  rw [if_neg (Rat.not_lt.2 nonneg), Rat.le_floor_iff]
  exact Rat.add_nonneg nonneg (by decide +kernel)

namespace Affine

theorem le_quantize {affine : Affine} {range : Int × Int} {value : Single}
    (scale : affine.scale.isPositiveFinite = true) (usable : value.isPositiveFinite = true)
    (high : affine.zeroPoint ≤ range.2) :
    affine.zeroPoint ≤ affine.quantize range value := by
  have ordered : affine.zeroPoint ≤ max range.1 (min range.2 affine.zeroPoint) := by omega
  unfold quantize
  split
  · exact ordered
  · obtain infinite | ⟨significand, exponent, finite⟩ :=
      Single.decode_of_le (Single.toNat_div_le usable scale)
    · rw [infinite]
      exact high
    · rw [finite]
      have magnitude : 0 ≤ roundHalfAway ((significand : Rat) * 2 ^ exponent) :=
        roundHalfAway_nonneg (Rat.mul_nonneg Rat.natCast_nonneg (Rat.zpow_nonneg (by decide)))
      dsimp only
      rw [if_neg Bool.false_ne_true]
      omega

theorem quantize_bounds {affine : Affine} {range : Int × Int} (low : range.1 ≤ 0)
    (high : 0 ≤ range.2) (value : Single) :
    range.1 ≤ affine.quantize range value ∧ affine.quantize range value ≤ range.2 := by
  unfold quantize
  split
  · omega
  · split
    · exact ⟨low, high⟩
    · split <;> omega
    · dsimp only
      omega

theorem check_eq_ok {affine : Affine} {elementType : ElementType} {range : Int × Int}
    (checked : affine.check elementType range = .ok ()) :
    affine.scale.isPositiveFinite = true ∧ range.1 ≤ affine.zeroPoint ∧
      affine.zeroPoint ≤ range.2 := by
  unfold check at checked
  split at checked
  · cases checked
  · rename_i usable
    split at checked
    · cases checked
    · exact ⟨by simpa using usable, by omega⟩

end Affine

theorem activationBounds_ordered {affine : Affine} {elementType : ElementType}
    (checked : affine.check elementType (-128, 127) = .ok ()) (activation : FusedActivation) :
    (activationBounds activation affine).1 ≤ (activationBounds activation affine).2 := by
  obtain ⟨scale, low, high⟩ := Affine.check_eq_ok checked
  have six := Affine.le_quantize scale Single.six_isPositiveFinite high
  cases activation <;> dsimp only [activationBounds] at low high ⊢ <;> omega

end TensorRuntime
