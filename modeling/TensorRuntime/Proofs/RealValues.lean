import TensorRuntime.Fallback
import TensorRuntime.Proofs.Records
import TensorRuntime.Proofs.Safety
import TensorRuntime.Proofs.Sizes

/-!
Reading and storing real values. A buffer of the right size is all that these need to
never abort: a record that does not fit is refused before it is used.
-/

namespace TensorRuntime

open Attempt

namespace Buffer

variable {packed : Array UInt8}

theorem safe_readBit {index : Nat} (inside : index / 8 < packed.size) :
    (readBit packed index).Safe :=
  (safe_readAt inside).bind fun _ _ => safe_pure _

theorem safe_setBit {index : Nat} (inside : index / 8 < packed.size) :
    (setBit packed index).Safe := by
  unfold setBit
  rw [if_pos inside]
  exact safe_pure _

theorem safe_writeBits {values : List Bool} (room : values.length ≤ 8 * packed.size) :
    (writeBits packed values).Safe := by
  unfold writeBits
  refine safe_foldlM (fun written : Array UInt8 => written.size = packed.size) (by simp) ?_ ?_
  · rintro ⟨value, index⟩ member written size
    have place := List.snd_lt_of_mem_zipIdx member
    dsimp only
    split
    · exact safe_setBit (by omega)
    · exact safe_pure _
  · rintro ⟨value, index⟩ member written after size step
    dsimp only at step
    split at step
    · rw [size_of_setBit step, size]
    · cases step
      exact size

end Buffer

namespace Quantization

variable (record : Quantization) (elementType : ElementType) (dims : List Nat)

theorem lengths_of_check {inputLength outputLength : Nat} {dims : List Nat}
    (checked : checkLengths inputLength outputLength dims = .ok ()) :
    inputLength = volume dims ∧ outputLength = volume dims := by
  unfold checkLengths at checked
  split at checked
  · cases checked
  · omega

theorem safe_convert {α β : Type} {values : Array α} (convert : Affine → α → β)
    (size : values.size = volume dims) (checked : record.validate elementType dims = .ok ()) :
    Safe (values.mapIdxM fun index value => do
      return convert (← record.affineOf (record.channelOf dims index)) value) := by
  refine safe_mapIdxM fun index bound value => ?_
  have positive : 0 ∉ dims := Shape.volume_pos.1 (by omega)
  obtain ⟨affine, found⟩ := affineOf_channelOf checked positive index
  exact .bind_ok found (safe_pure _)

theorem safe_dequantize (stored : Array Int) (outputLength : Nat) :
    (record.dequantize elementType dims stored outputLength).Safe := by
  unfold dequantize
  refine .bind_lift fun _ lengths => .bind_lift fun _ checked => ?_
  exact safe_convert record elementType dims Affine.dequantize (lengths_of_check lengths).1 checked

theorem safe_quantize (values : Array Single) (outputLength : Nat) :
    (record.quantize elementType dims values outputLength).Safe := by
  unfold quantize
  refine .bind_lift fun _ lengths => .bind_lift fun _ checked => ?_
  exact safe_convert record elementType dims (fun affine => affine.quantize _)
    (lengths_of_check lengths).1 checked

theorem size_of_dequantize {record : Quantization} {elementType : ElementType} {dims : List Nat}
    {stored : Array Int} {outputLength : Nat} {values : Array Single}
    (done : record.dequantize elementType dims stored outputLength = .ok values) :
    values.size = outputLength := by
  unfold dequantize at done
  simp only [bind_eq_ok, lift_eq_ok] at done
  obtain ⟨_, lengths, _, _, done⟩ := done
  have sizes := lengths_of_check lengths
  rw [size_of_mapIdxM done, sizes.1, sizes.2]

end Quantization

namespace Buffer

theorem exists_ofIntegers {elementType : ElementType} (integer : elementType.isInteger = true)
    (values : Array Int) : ∃ buffer, ofIntegers? elementType values = some buffer := by
  cases elementType with
  | f32 | f16 | bool => cases integer
  | i8 | u8 | i16 | i32 => exact ⟨_, rfl⟩

theorem inRange_of_integers? {buffer : Buffer} {stored : Array Int} {range : Int × Int}
    (held : buffer.integers? = some stored)
    (ranged : buffer.elementType.intRange? = some range) :
    ∀ value ∈ stored, range.1 ≤ value ∧ value ≤ range.2 := by
  intro value member
  cases buffer with
  | f32 | f16 | bool => cases held
  | i8 values | i16 values | i32 values =>
      cases held
      cases ranged
      obtain ⟨own, _, rfl⟩ := Array.mem_map.1 member
      have low := own.le_toInt
      have high := own.toInt_lt
      dsimp only
      omega
  | u8 values =>
      cases held
      cases ranged
      obtain ⟨own, _, rfl⟩ := Array.mem_map.1 member
      have high := own.toNat_lt
      dsimp only
      omega

end Buffer

namespace Tensor

variable {tensor : Tensor}

theorem safe_withStored (integer : tensor.elementType.isInteger = true) (values : Array Int) :
    (tensor.withStored values).Safe := by
  obtain ⟨buffer, built⟩ := Buffer.exists_ofIntegers integer values
  unfold withStored
  rw [built]
  exact safe_pure _

theorem safe_toSingles [Host] (sized : tensor.Sized) : tensor.toSingles.Safe := by
  unfold toSingles
  refine .bind_lift fun _ _ => ?_
  cases held : tensor.buffer with
  | f32 values =>
      dsimp only
      rw [if_pos (sized.singles held)]
      exact safe_pure _
  | f16 values => exact safe_pure _
  | bool packed =>
      have size := sized.bits held
      exact safe_tabulate fun index bound =>
        (Buffer.safe_readBit (by omega)).bind fun _ _ => safe_pure _
  | i8 values | u8 values | i16 values | i32 values =>
      dsimp only [Buffer.integers?]
      cases tensor.quantization with
      | none => exact safe_refuse _
      | some record => exact record.safe_dequantize _ _ _ _

theorem size_of_toSingles [Host] {values : Array Single} (read : tensor.toSingles = .ok values) :
    values.size = tensor.count := by
  unfold toSingles at read
  rw [bind_eq_ok] at read
  obtain ⟨_, _, read⟩ := read
  cases held : tensor.buffer with
  | f32 own =>
      rw [held] at read
      dsimp only at read
      split at read
      · rename_i size
        rw [pure_eq_ok] at read
        rw [← read, size]
      · cases read
  | f16 own =>
      rw [held] at read
      dsimp only at read
      rw [pure_eq_ok] at read
      rw [← read]
      simp
  | bool packed =>
      rw [held] at read
      exact size_of_tabulate read
  | i8 own | u8 own | i16 own | i32 own =>
      rw [held] at read
      dsimp only [Buffer.integers?] at read
      cases recorded : tensor.quantization with
      | none =>
          rw [recorded] at read
          cases read
      | some record =>
          rw [recorded] at read
          exact Quantization.size_of_dequantize read

theorem safe_writeSingles (sized : tensor.Sized) (values : Array Single) :
    (tensor.writeSingles values).Safe := by
  unfold writeSingles
  refine safe_guard fun fits => ?_
  have size : values.size = tensor.count := Classical.not_not.1 fits
  refine Safe.bind ?_ fun _ _ => safe_pure _
  unfold bufferOfSingles
  cases held : tensor.buffer with
  | f32 old =>
      dsimp only
      rw [if_pos ((sized.singles held).trans size.symm)]
      exact safe_pure _
  | f16 old => exact safe_pure _
  | bool packed =>
      have bytes := sized.bits held
      refine (Buffer.safe_writeBits ?_).map _
      rw [List.length_map, Array.length_toList]
      omega
  | i8 old | u8 old | i16 old | i32 old =>
      have integer : tensor.elementType.isInteger = true := by
        rw [elementType, held]
        rfl
      dsimp only [Buffer.integers?]
      cases tensor.quantization with
      | none => exact safe_refuse _
      | some record =>
          refine (record.safe_quantize _ _ _ _).bind fun stored _ => ?_
          obtain ⟨buffer, built⟩ := Buffer.exists_ofIntegers integer stored
          rw [built]
          exact safe_pure _

theorem safe_zeroShadow [Host] (tensor : Tensor) : tensor.zeroShadow.Safe :=
  .bind_lift fun _ _ => safe_lift _

end Tensor

end TensorRuntime
