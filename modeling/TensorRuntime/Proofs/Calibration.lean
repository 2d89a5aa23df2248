import TensorRuntime.Proofs.Numeric.Rounding
import TensorRuntime.Proofs.TensorHistory

/-!
Records calibrated on a range of values. One that covers an extent below the overflow threshold of
singles passes every check of a tensor of its element type; a larger extent becomes infinite before
it is divided, and the record that is left is refused everywhere.
-/

namespace TensorRuntime

open Attempt

namespace Single

theorem isPositiveFinite_of_magnitude {value : Rat} (low : 2 ^ (-149 : Int) ≤ value)
    (high : value < BinaryFormat.single.overflowThreshold) :
    (⟨UInt32.ofNat (BinaryFormat.single.magnitudeBits value)⟩ : Single).isPositiveFinite =
      true := by
  have infinity : BinaryFormat.single.infinityBits = 2139095040 := by decide
  have positive : 0 < BinaryFormat.single.magnitudeBits value :=
    BinaryFormat.magnitudeBits_pos (by decide) low
  have below : BinaryFormat.single.magnitudeBits value < BinaryFormat.single.infinityBits :=
    (BinaryFormat.magnitudeBits_lt_infinityBits_iff (by decide)).2 high
  have bits : (UInt32.ofNat (BinaryFormat.single.magnitudeBits value)).toNat =
      BinaryFormat.single.magnitudeBits value :=
    UInt32.toNat_ofNat_of_lt' (by rw [UInt32.size]; omega)
  simp only [isPositiveFinite, bits, Bool.and_eq_true, decide_eq_true_eq]
  exact ⟨positive, below⟩

theorem overflowThreshold_eq : BinaryFormat.single.overflowThreshold = 2 ^ 128 - 2 ^ 103 := by
  have binade : BinaryFormat.single.binade = 2 ^ 23 := by decide
  have top : BinaryFormat.single.topExponent = 104 := by decide
  unfold BinaryFormat.overflowThreshold
  rw [binade, top]
  norm_num

end Single

theorem Affine.check_of_fits {affine : Affine} {elementType : ElementType} {range : Int × Int}
    (usable : affine.scale.isPositiveFinite = true) (low : range.1 ≤ affine.zeroPoint)
    (high : affine.zeroPoint ≤ range.2) : affine.check elementType range = .ok () := by
  unfold check
  rw [usable, if_neg (by decide), if_neg (by omega)]

namespace Quantization

def coveredExtent (lowValue highValue : Rat) : Rat := max highValue 0 - min lowValue 0

def coveringScale (extent levels : Rat) : Rat :=
  let extent := BinaryFormat.single.nearest extent
  if extent ≤ 1 / (1 <<< 23 : Nat) then 1
  else BinaryFormat.single.nearest (BinaryFormat.double.nearest (extent / levels))

variable {low high : Single} {elementType : ElementType} {range : Int × Int}
  {lowValue highValue : Rat}

theorem widened_eq (lowValue highValue : Rat) :
    (if 0 < highValue then highValue else 0) - (if lowValue < 0 then lowValue else 0) =
      coveredExtent lowValue highValue := by
  unfold coveredExtent
  congr 1
  · split
    · exact (max_eq_left (by linarith)).symm
    · exact (max_eq_right (by linarith)).symm
  · split
    · exact (min_eq_left (by linarith)).symm
    · exact (min_eq_right (by linarith)).symm

theorem ranges_ordered (ranged : elementType.intRange? = some range) : range.1 ≤ range.2 := by
  cases elementType <;> cases ranged <;> decide

theorem levels_bounds (ranged : elementType.intRange? = some range) :
    (2 : Rat) ^ (7 : Int) ≤ range.2 - range.1 ∧ (range.2 - range.1 : Rat) ≤ 2 ^ (32 : Int) := by
  cases elementType <;> cases ranged <;> norm_num

theorem coveredExtent_nonneg (lowValue highValue : Rat) : 0 ≤ coveredExtent lowValue highValue :=
  sub_nonneg.2 ((min_le_right _ _).trans (le_max_right _ _))

theorem coveringScale_bounds {extent levels : Rat} (nonneg : 0 ≤ extent)
    (bounded : extent ≤ 2 ^ (128 : Int)) (least : (2 : Rat) ^ (7 : Int) ≤ levels)
    (most : levels ≤ 2 ^ (32 : Int)) :
    2 ^ (-55 : Int) ≤ coveringScale extent levels ∧
      coveringScale extent levels ≤ 2 ^ (121 : Int) := by
  unfold coveringScale
  dsimp only
  split
  · norm_num
  · rename_i large
    have positive : 0 < extent := by
      refine lt_of_le_of_ne nonneg fun zero => large ?_
      rw [← zero]
      decide +kernel
    have least' : (1 : Rat) / (1 <<< 23 : Nat) = 2 ^ (-23 : Int) := by
      rw [Nat.one_shiftLeft]
      norm_num
    have low : (2 : Rat) ^ (-23 : Int) ≤ BinaryFormat.single.nearest extent :=
      least' ▸ (not_le.1 large).le
    have high : BinaryFormat.single.nearest extent ≤ 2 ^ (128 : Int) :=
      BinaryFormat.nearest_le_power positive (by decide) bounded
    have divisor : 0 < levels := lt_of_lt_of_le (by positivity) least
    have quotient : (2 : Rat) ^ (-55 : Int) ≤ BinaryFormat.single.nearest extent / levels := by
      rw [le_div_iff₀ divisor]
      calc (2 : Rat) ^ (-55 : Int) * levels ≤ 2 ^ (-55 : Int) * 2 ^ (32 : Int) := by gcongr
        _ = 2 ^ (-23 : Int) := by norm_num
        _ ≤ _ := low
    have quotient' : BinaryFormat.single.nearest extent / levels ≤ 2 ^ (121 : Int) := by
      rw [div_le_iff₀ divisor]
      calc BinaryFormat.single.nearest extent ≤ 2 ^ (128 : Int) := high
        _ = 2 ^ (121 : Int) * 2 ^ (7 : Int) := by norm_num
        _ ≤ 2 ^ (121 : Int) * levels := by gcongr
    have positive' : 0 < BinaryFormat.single.nearest extent / levels :=
      lt_of_lt_of_le (by positivity) quotient
    have wide : (2 : Rat) ^ (-55 : Int) ≤ BinaryFormat.double.nearest
        (BinaryFormat.single.nearest extent / levels) :=
      BinaryFormat.power_le_nearest (by decide) quotient
    have wide' : BinaryFormat.double.nearest (BinaryFormat.single.nearest extent / levels) ≤
        2 ^ (121 : Int) := BinaryFormat.nearest_le_power positive' (by decide) quotient'
    exact ⟨BinaryFormat.power_le_nearest (by decide) wide,
      BinaryFormat.nearest_le_power (lt_of_lt_of_le (by positivity) wide) (by decide) wide'⟩

theorem fromRange_of_finite (ranged : elementType.intRange? = some range)
    (lowFinite : low.decode.toRat? = some lowValue)
    (highFinite : high.decode.toRat? = some highValue) (ordered : lowValue ≤ highValue)
    (below : coveredExtent lowValue highValue < BinaryFormat.single.overflowThreshold) :
    ∃ zeroPoint, fromRange low high elementType = .ok (perTensor
      ⟨⟨UInt32.ofNat (BinaryFormat.single.magnitudeBits
        (coveringScale (coveredExtent lowValue highValue) (range.2 - range.1)))⟩, zeroPoint⟩) ∧
      range.1 ≤ zeroPoint ∧ zeroPoint ≤ range.2 := by
  have finite := (BinaryFormat.magnitudeBits_lt_infinityBits_iff (by decide)).2 below
  have nonempty := ranges_ordered ranged
  unfold fromRange
  rw [ranged, lowFinite, highFinite]
  dsimp only
  rw [if_neg (not_lt.2 ordered), widened_eq, if_neg finite.ne]
  exact ⟨_, rfl, by omega, by omega⟩

theorem fromRange_of_overflow (ranged : elementType.intRange? = some range)
    (lowFinite : low.decode.toRat? = some lowValue)
    (highFinite : high.decode.toRat? = some highValue) (ordered : lowValue ≤ highValue)
    (above : BinaryFormat.single.overflowThreshold ≤ coveredExtent lowValue highValue) :
    fromRange low high elementType = .ok (perTensor ⟨Single.positiveInfinity, range.1⟩) := by
  have infinite : BinaryFormat.single.magnitudeBits (coveredExtent lowValue highValue) =
      BinaryFormat.single.infinityBits := by
    refine le_antisymm (BinaryFormat.magnitudeBits_le _ _) (not_lt.1 fun finite => ?_)
    exact not_lt.2 above ((BinaryFormat.magnitudeBits_lt_infinityBits_iff (by decide)).1 finite)
  unfold fromRange
  rw [ranged, lowFinite, highFinite]
  dsimp only
  rw [if_neg (not_lt.2 ordered), widened_eq, if_pos infinite]

theorem validate_perTensor (ranged : elementType.intRange? = some range) (affine : Affine)
    (dims : List Nat) : (perTensor affine).validate elementType dims =
      affine.check elementType range := by
  unfold validate
  rw [ranged]

/-- The scale and the zero point of the record are usable, so no constructor finds fault with it. -/
structure Accepted [Host] (record : Quantization) (elementType : ElementType) : Prop where
  validates (dims : List Nat) : record.validate elementType dims = .ok ()
  creates {dims : List Nat} {layout : Layout} {buffer : Buffer}
    (typed : buffer.elementType = elementType) (ranked : dims.length ≤ maxRank)
    (accepts : layout.acceptsRank dims.length = true)
    (sized : buffer.byteCount = elementType.storageBytes (volume dims)) :
    Tensor.create dims layout buffer (some record) =
      .ok ⟨"", ⟨dims⟩, layout, some record, .external, buffer⟩
  zeroes {dims : List Nat} {buffer : Buffer} (ranked : dims.length ≤ maxRank)
    (zeroed : Buffer.zeros elementType (volume dims) = .ok buffer) :
    Tensor.zeros dims elementType (some record) =
      .ok ⟨"", ⟨dims⟩, .any, some record, .external, buffer⟩
  stores {dims : List Nat} {buffer : Buffer} {values : Array Single}
    (ranked : dims.length ≤ maxRank)
    (zeroed : Buffer.zeros elementType (volume dims) = .ok buffer)
    (size : values.size = volume dims) :
    ∃ tensor, Tensor.quantizeSingles values dims elementType (some record) = .ok tensor

theorem accepted_of_validate [Host] {record : Quantization} (integer : elementType.isInteger = true)
    (validates : ∀ dims, record.validate elementType dims = .ok ()) :
    record.Accepted elementType := by
  have valid {dims : List Nat} {layout : Layout} {buffer : Buffer}
      (typed : buffer.elementType = elementType) (ranked : dims.length ≤ maxRank)
      (accepts : layout.acceptsRank dims.length = true)
      (sized : buffer.byteCount = elementType.storageBytes (volume dims)) :
      (⟨"", ⟨dims⟩, layout, some record, .external, buffer⟩ : Tensor).Valid := by
    subst typed
    refine Tensor.valid_iff.2 ⟨ranked, accepts, sized, ?_⟩
    unfold Tensor.RecordFits Tensor.elementType
    dsimp only
    rw [integer]
    exact validates dims
  have shaped {dims : List Nat} (ranked : dims.length ≤ maxRank) :
      Shape.ofDims dims = .ok ⟨dims⟩ := if_neg (Nat.not_lt.2 ranked)
  have creates {dims : List Nat} {layout : Layout} {buffer : Buffer}
      (typed : buffer.elementType = elementType) (ranked : dims.length ≤ maxRank)
      (accepts : layout.acceptsRank dims.length = true)
      (sized : buffer.byteCount = elementType.storageBytes (volume dims)) :
      Tensor.create dims layout buffer (some record) =
        .ok ⟨"", ⟨dims⟩, layout, some record, .external, buffer⟩ :=
    bind_eq_ok.2 ⟨⟨dims⟩, shaped ranked, bind_eq_ok.2 ⟨(), valid typed ranked accepts sized, rfl⟩⟩
  have zeroes {dims : List Nat} {buffer : Buffer} (ranked : dims.length ≤ maxRank)
      (zeroed : Buffer.zeros elementType (volume dims) = .ok buffer) :
      Tensor.zeros dims elementType (some record) =
        .ok ⟨"", ⟨dims⟩, .any, some record, .external, buffer⟩ := by
    obtain ⟨typed, sized⟩ := Buffer.of_zeros zeroed
    exact bind_eq_ok.2 ⟨⟨dims⟩, shaped ranked,
      bind_eq_ok.2 ⟨buffer, zeroed, creates typed ranked rfl sized⟩⟩
  refine ⟨validates, creates, zeroes, fun {dims _ _} ranked zeroed size => ?_⟩
  have any : Layout.any.acceptsRank dims.length = true := rfl
  obtain ⟨typed, sized⟩ := Buffer.of_zeros zeroed
  obtain ⟨written, stored⟩ := (valid typed ranked any sized).exists_writeSingles size
  exact ⟨written, bind_eq_ok.2 ⟨_, lift_eq_ok.2 (zeroes ranked zeroed), stored⟩⟩

/-- A range of finite values leaves a record with its zero point in the range of the element type.
While the extent stays finite the record is accepted by every constructor; an extent from the
overflow threshold on has an infinite scale, which every check of a record refuses. -/
theorem calibration_accepted_below_overflow [Host] (ranged : elementType.intRange? = some range)
    (lowFinite : low.decode.toRat? = some lowValue)
    (highFinite : high.decode.toRat? = some highValue) (ordered : lowValue ≤ highValue) :
    ∃ affine, fromRange low high elementType = .ok (perTensor affine) ∧
      range.1 ≤ affine.zeroPoint ∧ affine.zeroPoint ≤ range.2 ∧
      (coveredExtent lowValue highValue < 2 ^ 128 - 2 ^ 103 →
        affine.scale.isPositiveFinite = true ∧ (perTensor affine).Accepted elementType) ∧
      (2 ^ 128 - 2 ^ 103 ≤ coveredExtent lowValue highValue →
        affine.scale = Single.positiveInfinity ∧
        ∀ dims, (perTensor affine).validate elementType dims = .error (.invalidDescriptor
          ("quantization scale must be finite and positive, got " ++
            singleText Single.positiveInfinity))) := by
  have integer := ElementType.isInteger_of_intRange? ranged
  rw [← Single.overflowThreshold_eq]
  by_cases below : coveredExtent lowValue highValue < BinaryFormat.single.overflowThreshold
  · obtain ⟨zeroPoint, calibrated, low', high'⟩ :=
      fromRange_of_finite ranged lowFinite highFinite ordered below
    have bounded : coveredExtent lowValue highValue ≤ 2 ^ (128 : Int) := by
      rw [Single.overflowThreshold_eq] at below
      norm_num at below ⊢
      linarith
    obtain ⟨least, most⟩ := levels_bounds ranged
    obtain ⟨small, large⟩ := coveringScale_bounds (coveredExtent_nonneg _ _) bounded least most
    have usable := Single.isPositiveFinite_of_magnitude (le_trans (by norm_num) small)
      (lt_of_le_of_lt large (by rw [Single.overflowThreshold_eq]; norm_num))
    refine ⟨_, calibrated, low', high', fun _ => ⟨usable, ?_⟩, fun above => absurd below
      (not_lt.2 above)⟩
    refine accepted_of_validate integer fun dims => ?_
    rw [validate_perTensor ranged]
    exact Affine.check_of_fits usable low' high'
  · refine ⟨_, fromRange_of_overflow ranged lowFinite highFinite ordered (not_lt.1 below),
      le_refl _, ranges_ordered ranged, fun finite => absurd finite below,
      fun _ => ⟨rfl, fun dims => ?_⟩⟩
    rw [validate_perTensor ranged]
    exact if_pos rfl

theorem smallRange_is_accepted :
    (Single.decode ⟨0xBF800000⟩).toRat? = some (-1) ∧
      (Single.decode ⟨0x40400000⟩).toRat? = some 3 ∧
      ∃ affine, fromRange ⟨0xBF800000⟩ ⟨0x40400000⟩ .i8 = .ok (perTensor affine) ∧
        affine.scale.isPositiveFinite = true ∧ (perTensor affine).Accepted .i8 := by
  have low : (Single.decode ⟨0xBF800000⟩).toRat? = some (-1) := by decide +kernel
  have high : (Single.decode ⟨0x40400000⟩).toRat? = some 3 := by decide +kernel
  have ranged : ElementType.i8.intRange? = some (-128, 127) := rfl
  obtain ⟨affine, calibrated, _, _, usable, _⟩ :=
    calibration_accepted_below_overflow ranged low high (by norm_num)
  refine ⟨low, high, affine, calibrated, usable ?_⟩
  norm_num [coveredExtent]

/-- Both ends of the range are finite, and its record has an infinite scale. -/
theorem wideRange_is_refused :
    (Single.decode ⟨0xFE967699⟩).toRat? = some (-(9860761 * 2 ^ 103)) ∧
      (Single.decode ⟨0x7F61B1E6⟩).toRat? = some (14791142 * 2 ^ 104) ∧
      fromRange ⟨0xFE967699⟩ ⟨0x7F61B1E6⟩ .i8 =
        .ok (perTensor ⟨Single.positiveInfinity, -128⟩) ∧
      Single.positiveInfinity.isPositiveFinite = false ∧
      ∀ dims, (perTensor ⟨Single.positiveInfinity, -128⟩).validate .i8 dims ≠ .ok () := by
  have low : (Single.decode ⟨0xFE967699⟩).toRat? = some (-(9860761 * 2 ^ 103)) := by
    decide +kernel
  have high : (Single.decode ⟨0x7F61B1E6⟩).toRat? = some (14791142 * 2 ^ 104) := by
    decide +kernel
  have ranged : ElementType.i8.intRange? = some (-128, 127) := rfl
  have above : BinaryFormat.single.overflowThreshold ≤
      coveredExtent (-(9860761 * 2 ^ 103)) (14791142 * 2 ^ 104) := by
    rw [Single.overflowThreshold_eq]
    norm_num [coveredExtent]
  refine ⟨low, high, fromRange_of_overflow ranged low high (by norm_num) above, by decide,
    fun dims => ?_⟩
  rw [validate_perTensor ranged]
  exact nofun

end Quantization

end TensorRuntime
