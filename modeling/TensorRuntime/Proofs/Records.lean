import TensorRuntime.Proofs.Frame
import TensorRuntime.Proofs.Positions

/-!
What a checked record offers: integer tensors have one, and every channel of theirs has
a pair in it.
-/

namespace TensorRuntime

open Attempt

namespace Quantization

theorem sizes_of_validate {scales : Array Single} {zeroPoints : Array Int} {axis : Nat}
    {elementType : ElementType} {dims : List Nat}
    (checked : (perChannel scales zeroPoints axis).validate elementType dims = .ok ()) :
    ∃ extent, dims[axis]? = some extent ∧ scales.size = extent ∧ zeroPoints.size = extent := by
  unfold validate at checked
  split at checked
  · cases checked
  · dsimp only at checked
    split at checked
    · cases checked
    · rename_i extent found
      split at checked
      · cases checked
      · exact ⟨extent, found, by omega, by omega⟩

theorem check_of_affineOf {record : Quantization} {elementType : ElementType}
    {dims : List Nat} {range : Int × Int} (ranged : elementType.intRange? = some range)
    (checked : record.validate elementType dims = .ok ()) {channel : Nat} {affine : Affine}
    (paired : record.affineOf channel = .ok affine) : affine.check elementType range = .ok () := by
  unfold validate at checked
  rw [ranged] at checked
  cases record with
  | perTensor own =>
      cases paired
      exact checked
  | perChannel scales zeroPoints axis =>
      dsimp only at checked
      split at checked
      · cases checked
      · split at checked
        · cases checked
        · simp only [affineOf, bind_eq_ok, pure_eq_ok, readAt_eq_ok] at paired
          obtain ⟨scale, scaleRead, zeroPoint, zeroRead, rfl⟩ := paired
          refine forM_eq_ok.1 checked (scale, zeroPoint) (List.mem_iff_getElem?.2 ⟨channel, ?_⟩)
          rw [List.getElem?_zip_eq_some]
          exact ⟨by simpa using scaleRead, by simpa using zeroRead⟩

theorem affineOf_ok {record : Quantization} {elementType : ElementType} {dims : List Nat}
    (checked : record.validate elementType dims = .ok ()) {channel : Nat}
    (inside : ∀ axis, record.axis? = some axis → ∀ extent, dims[axis]? = some extent →
      channel < extent) :
    ∃ affine, record.affineOf channel = .ok affine := by
  cases record with
  | perTensor affine => exact ⟨affine, rfl⟩
  | perChannel scales zeroPoints axis =>
      obtain ⟨extent, found, scaleSize, zeroSize⟩ := sizes_of_validate checked
      have bound := inside axis rfl extent found
      have scaleBound : channel < scales.size := by omega
      have zeroBound : channel < zeroPoints.size := by omega
      refine ⟨⟨scales[channel], zeroPoints[channel]⟩, ?_⟩
      simp only [affineOf, readAt_of_lt scaleBound, readAt_of_lt zeroBound]
      rfl

theorem channelOf_lt {record : Quantization} {axis extent : Nat} {dims : List Nat}
    (along : record.axis? = some axis) (positive : 0 ∉ dims) (found : dims[axis]? = some extent)
    (position : Nat) : record.channelOf dims position < extent := by
  have nonzero : extent ≠ 0 := fun zero => positive (zero ▸ List.mem_of_getElem? found)
  unfold channelOf
  rw [along]
  dsimp only
  rw [found, Option.getD_some, Nat.max_eq_right (Nat.pos_of_ne_zero nonzero)]
  exact Nat.mod_lt _ (Nat.pos_of_ne_zero nonzero)

theorem affineOf_channelOf {record : Quantization} {elementType : ElementType} {dims : List Nat}
    (checked : record.validate elementType dims = .ok ()) (positive : 0 ∉ dims) (position : Nat) :
    ∃ affine, record.affineOf (record.channelOf dims position) = .ok affine :=
  affineOf_ok checked fun _ along _ found => channelOf_lt along positive found position

end Quantization

namespace Tensor

variable {tensor : Tensor}

theorem Valid.of_frame {first second : Tensor} (valid : first.Valid)
    (same : second.frame = first.frame) : second.Valid := by
  obtain ⟨rank, layout, sized, fits⟩ := valid_iff.1 valid
  have signatures := signature_of_frame same
  simp only [Tensor.signature, Signature.mk.injEq] at signatures
  obtain ⟨shape, elementType, layouts, records⟩ := signatures
  refine valid_iff.2 ⟨?_, ?_, sized.of_frame same, ?_⟩
  · rwa [shape]
  · rwa [shape, layouts]
  · unfold RecordFits dims at *
    rwa [records, elementType, shape]

theorem Valid.record (valid : tensor.Valid) (integer : tensor.elementType.isInteger = true) :
    ∃ record, tensor.quantization = some record ∧
      record.validate tensor.elementType tensor.dims = .ok () := by
  obtain ⟨_, _, _, fits⟩ := valid_iff.1 valid
  unfold RecordFits at fits
  rw [integer] at fits
  cases recorded : tensor.quantization with
  | none =>
      rw [recorded] at fits
      exact fits.elim
  | some record =>
      rw [recorded] at fits
      exact ⟨record, rfl, fits⟩

theorem Valid.check_of_perTensor (valid : tensor.Valid) {range : Int × Int} {affine : Affine}
    (ranged : tensor.elementType.intRange? = some range)
    (recorded : tensor.quantization = some (.perTensor affine)) :
    affine.check tensor.elementType range = .ok () := by
  obtain ⟨record, present, checked⟩ := valid.record (ElementType.isInteger_of_intRange? ranged)
  cases recorded.symm.trans present
  exact Quantization.check_of_affineOf ranged checked
    (show (Quantization.perTensor affine).affineOf 0 = .ok affine from rfl)

end Tensor

end TensorRuntime
