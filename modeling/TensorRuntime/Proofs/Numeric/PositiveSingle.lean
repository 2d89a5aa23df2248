import Mathlib.Algebra.GroupWithZero.Nat
import TensorRuntime.Numeric.Single

/-!
Positive finite singles. As numbers they are equal only to themselves, so a
comparison of two usable scales is a comparison of their bit patterns.
-/

namespace TensorRuntime

namespace Single

open Float.Model (Format UnpackedFloat)

def fields (pattern : Nat) : Nat × Nat :=
  if pattern / 2 ^ 23 = 0 then (pattern % 2 ^ 23, 1)
  else (2 ^ 23 + pattern % 2 ^ 23, pattern / 2 ^ 23)

theorem fields_injective {first second : Nat} (same : fields first = fields second) :
    first = second := by
  unfold fields at same
  split at same <;> split at same <;> simp only [Prod.mk.injEq] at same <;> omega

section Unpacking

variable {bits : BitVec 32}

theorem unpackMantissa_toNat :
    (@UnpackedFloat.unpackMantissa Format.binary32 bits).toNat = bits.toNat % 2 ^ 23 := by
  simp [UnpackedFloat.unpackMantissa, Nat.shiftRight_eq_div_pow]

theorem unpackExponent_toNat (finite : bits.toNat < 2139095040) :
    (@UnpackedFloat.unpackExponent Format.binary32 bits).toNat = bits.toNat / 2 ^ 23 := by
  simp [UnpackedFloat.unpackExponent, Nat.shiftRight_eq_div_pow]
  omega

theorem unpackExponent_ne_full (finite : bits.toNat < 2139095040) :
    @UnpackedFloat.unpackExponent Format.binary32 bits ≠ -1#_ := by
  intro full
  have fullField := congrArg BitVec.toNat full
  rw [unpackExponent_toNat finite] at fullField
  simp at fullField
  omega

theorem unpackSign_eq_zero (finite : bits.toNat < 2139095040) :
    @UnpackedFloat.unpackSign Format.binary32 bits = 0#1 := by
  apply BitVec.eq_of_toNat_eq
  delta UnpackedFloat.unpackSign
  simp [Nat.shiftRight_eq_div_pow]
  omega

end Unpacking

theorem unpack_positive (bits : BitVec 32) (positive : 0 < bits.toNat)
    (finite : bits.toNat < 2139095040) :
    ∃ above, UnpackedFloat.unpack Format.binary32 bits =
      .finite .positive (fields bits.toNat).1 ((fields bits.toNat).2 - 150) above := by
  have exponent := unpackExponent_toNat finite
  have notFull := unpackExponent_ne_full finite
  have sign := unpackSign_eq_zero finite
  by_cases zero : @UnpackedFloat.unpackExponent Format.binary32 bits = 0#_
  · have zeroField : bits.toNat / 2 ^ 23 = 0 := by
      rw [← exponent, zero]
      rfl
    have someBits : @UnpackedFloat.unpackMantissa Format.binary32 bits ≠ 0#_ := by
      intro noBits
      have zeroMantissa := congrArg BitVec.toNat noBits
      rw [unpackMantissa_toNat] at zeroMantissa
      simp at zeroMantissa
      omega
    rw [fields, if_pos zeroField]
    refine ⟨by dsimp only; omega, ?_⟩
    delta UnpackedFloat.unpack
    dsimp only
    rw [if_neg notFull, if_pos zero, dif_neg someBits, sign, UnpackedFloat.finite.injEq]
    refine ⟨rfl, unpackMantissa_toNat, ?_⟩
    rw [exponent, zeroField]
    rfl
  · have field : bits.toNat / 2 ^ 23 ≠ 0 := by
      rw [← exponent]
      intro noBits
      exact zero (BitVec.eq_of_toNat_eq (by simpa using noBits))
    rw [fields, if_neg field]
    refine ⟨by dsimp only; omega, ?_⟩
    delta UnpackedFloat.unpack
    dsimp only
    rw [if_neg notFull, if_neg zero, sign, UnpackedFloat.finite.injEq]
    have below : bits.toNat % 2 ^ 23 < 2 ^ 23 := Nat.mod_lt _ (by decide)
    have significand : (1#1 ++ @UnpackedFloat.unpackMantissa Format.binary32 bits).toNat =
        2 ^ 23 + bits.toNat % 2 ^ 23 := by
      rw [BitVec.toNat_append, unpackMantissa_toNat, Nat.or_comm]
      exact (Nat.or_two_pow_eq_add_of_lt below).trans (Nat.add_comm _ _)
    refine ⟨rfl, significand, ?_⟩
    rw [exponent]
    rfl

theorem toNat_packComponents (exponent : BitVec 8) (mantissa : BitVec 23) :
    (UnpackedFloat.packComponents Format.binary32 .positive exponent mantissa).toNat =
      exponent.toNat * 2 ^ 23 + mantissa.toNat := by
  have below := mantissa.isLt
  have appended :
      (UnpackedFloat.packComponents Format.binary32 .positive exponent mantissa).toNat =
        ((0#1 ++ exponent) ++ mantissa).toNat := rfl
  rw [appended, BitVec.toNat_append, BitVec.toNat_append, Nat.shiftLeft_eq, Nat.mul_comm,
    ← Nat.two_pow_add_eq_or_of_lt below, Nat.mul_comm]
  simp

theorem pack_unpack_positive (bits : BitVec 32) (positive : 0 < bits.toNat)
    (finite : bits.toNat < 2139095040) :
    UnpackedFloat.pack Format.binary32 (UnpackedFloat.unpack Format.binary32 bits) = bits := by
  obtain ⟨above, unpacked⟩ := unpack_positive bits positive finite
  rw [unpacked]
  delta UnpackedFloat.pack
  dsimp only
  have exponent : ((fields bits.toNat).2 - 150 + (Format.exponentBias Format.binary32 : Int) +
      (Format.mantissaBitsWithoutImplicit Format.binary32 : Int)).toNat =
        (fields bits.toNat).2 := by
    simp [Format.exponentBias]
    omega
  simp only [exponent]
  have width : Format.mantissaBits Format.binary32 = 24 := rfl
  apply BitVec.eq_of_toNat_eq
  by_cases zeroField : bits.toNat / 2 ^ 23 = 0
  · have subnormal : ¬ ((fields bits.toNat).1.log2 + 1 = 24) := by
      intro full
      rw [fields, if_pos zeroField] at full above
      have short := (Nat.log2_lt (by dsimp only at above; omega)).2
        (Nat.mod_lt bits.toNat (show 0 < 2 ^ 23 by decide))
      dsimp only at full
      omega
    rw [if_neg (by rw [fields, if_pos zeroField]; dsimp only; omega), width, if_neg subnormal,
      toNat_packComponents, fields, if_pos zeroField]
    simp
    omega
  · have normal : (fields bits.toNat).1.log2 + 1 = 24 := by
      rw [fields, if_neg zeroField]
      have full := (Nat.log2_eq_iff (n := 2 ^ 23 + bits.toNat % 2 ^ 23) (k := 23) (by omega)).2
        (by omega)
      dsimp only
      omega
    rw [if_neg (by rw [fields, if_neg zeroField]; dsimp only; omega), width, if_pos normal,
      toNat_packComponents, fields, if_neg zeroField]
    simp
    omega

theorem unpack_toFloat32 {value : Single} (usable : value.isPositiveFinite = true) :
    ∃ above, value.toFloat32.toModel.unpack = .finite .positive (fields value.bits.toNat).1
      ((fields value.bits.toNat).2 - 150) above := by
  have infinity : BinaryFormat.single.infinityBits = 2139095040 := by decide
  simp only [isPositiveFinite, infinity, Bool.and_eq_true, decide_eq_true_eq] at usable
  have kept : value.toFloat32.toModel.unpack =
      UnpackedFloat.unpack Format.binary32 (UnpackedFloat.pack Format.binary32
        (UnpackedFloat.unpack Format.binary32 value.bits.toBitVec)) := rfl
  rw [kept, pack_unpack_positive _ usable.1 usable.2]
  exact unpack_positive _ usable.1 usable.2

theorem eq_of_beq {first second : Single} (firstUsable : first.isPositiveFinite = true)
    (secondUsable : second.isPositiveFinite = true) (same : (first == second) = true) :
    first = second := by
  obtain ⟨firstAbove, firstUnpacked⟩ := unpack_toFloat32 firstUsable
  obtain ⟨secondAbove, secondUnpacked⟩ := unpack_toFloat32 secondUsable
  have compared : (first == second) =
      UnpackedFloat.beq first.toFloat32.toModel.unpack second.toFloat32.toModel.unpack := rfl
  rw [compared, firstUnpacked, secondUnpacked] at same
  delta UnpackedFloat.beq UnpackedFloat.compare at same
  dsimp only at same
  simp only [beq_iff_eq, Option.some.injEq, Ordering.then_eq_eq,
    Std.compare_eq_iff_eq] at same
  have fieldsAgree : fields first.bits.toNat = fields second.bits.toNat :=
    Prod.ext same.2 (by omega)
  have bitsAgree := UInt32.toNat_inj.1 (fields_injective fieldsAgree)
  cases first
  cases second
  exact congrArg Single.mk bitsAgree

theorem beq_self {value : Single} (usable : value.isPositiveFinite = true) :
    (value == value) = true := by
  obtain ⟨above, unpacked⟩ := unpack_toFloat32 usable
  have compared : (value == value) =
      UnpackedFloat.beq value.toFloat32.toModel.unpack value.toFloat32.toModel.unpack := rfl
  rw [compared, unpacked]
  delta UnpackedFloat.beq UnpackedFloat.compare
  simp

end Single

end TensorRuntime
