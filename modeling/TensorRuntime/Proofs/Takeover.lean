import TensorRuntime.Proofs.Frame
import TensorRuntime.Proofs.Records

/-!
Taking over the contents of another tensor. Two comparisons guard the same buffers: the one made
here, and the one that an operator makes of the tensors that it is given. Only the second asks for
the size of the buffer, and nothing else sets them apart.
-/

namespace TensorRuntime

namespace Single

open Float.Model (UnpackedFloat)

theorem beq_comm (first second : Single) : (first == second) = (second == first) := by
  have compared (left right : Single) : (left == right) =
      UnpackedFloat.beq left.toFloat32.toModel.unpack right.toFloat32.toModel.unpack := rfl
  rw [compared, compared]
  generalize first.toFloat32.toModel.unpack = left
  generalize second.toFloat32.toModel.unpack = right
  delta UnpackedFloat.beq UnpackedFloat.compare
  rcases left with (_ | _) | _ | _ | ⟨(_ | _), significand, exponent, _⟩ <;>
    rcases right with (_ | _) | _ | _ | ⟨(_ | _), significand', exponent', _⟩ <;> try rfl
  all_goals
    dsimp only
    rw [Bool.eq_iff_iff]
    simp only [beq_iff_eq, Option.some.injEq, Ordering.then_eq_eq, Ordering.swap_eq_eq,
      Std.compare_eq_iff_eq]
    rw [eq_comm (a := exponent), eq_comm (a := significand)]

end Single

namespace Quantization

theorem same_comm (first second : Quantization) : first.same second = second.same first := by
  cases first with
  | perTensor affine =>
      cases second with
      | perTensor affine' =>
          rw [same, same, Single.beq_comm, BEq.comm (a := affine.zeroPoint)]
      | perChannel => rfl
  | perChannel scales zeroPoints axis =>
      cases second with
      | perTensor => rfl
      | perChannel scales' zeroPoints' axis' =>
          have turned {left right : Array Single} (agree : left.isEqv right (· == ·) = true) :
              right.isEqv left (· == ·) = true := by
            obtain ⟨sizes, entries⟩ := Array.isEqv_iff_rel.1 agree
            exact Array.isEqv_iff_rel.2 ⟨sizes.symm, fun place inside =>
              (Single.beq_comm _ _).trans (entries place (sizes ▸ inside))⟩
          rw [same, same, BEq.comm (a := zeroPoints), BEq.comm (a := axis),
            Bool.eq_iff_iff.2 ⟨turned, turned⟩]

theorem sameOption_comm (first second : Option Quantization) :
    sameOption first second = sameOption second first := by
  cases first <;> cases second <;> try rfl
  exact same_comm _ _

end Quantization

theorem Signature.accepts_eq_true {signature : Signature} {tensor : Tensor} :
    signature.accepts tensor = true ↔
      tensor.shape = signature.shape ∧ tensor.elementType = signature.elementType ∧
        tensor.layout = signature.layout ∧
        Quantization.sameOption tensor.quantization signature.quantization = true ∧
        tensor.Sized := by
  simp only [accepts, Bool.and_eq_true, beq_iff_eq, and_assoc]
  constructor
  · rintro ⟨shape, elementType, layout, record, size⟩
    refine ⟨shape, elementType, layout, record, ?_⟩
    rwa [Tensor.Sized, Tensor.count, shape, elementType]
  · rintro ⟨shape, elementType, layout, record, size⟩
    refine ⟨shape, elementType, layout, record, ?_⟩
    rwa [Tensor.Sized, Tensor.count, shape, elementType] at size

namespace Tensor

variable {tensor other taken : Tensor}

theorem replaceBuffer_eq_ok : tensor.replaceBuffer other = .ok taken ↔
    tensor.sameSignature other = true ∧ taken = { tensor with buffer := other.buffer } := by
  unfold replaceBuffer
  split
  · rename_i same
    simp only [Except.ok.injEq, same, true_and, eq_comm]
  · rename_i differ
    simp [differ]

theorem sameSignature_eq_true : tensor.sameSignature other = true ↔
    other.shape = tensor.shape ∧ other.elementType = tensor.elementType ∧
      other.layout = tensor.layout ∧
      Quantization.sameOption other.quantization tensor.quantization = true := by
  simp only [sameSignature, Bool.and_eq_true, beq_iff_eq, and_assoc,
    Quantization.sameOption_comm tensor.quantization, eq_comm (a := tensor.shape),
    eq_comm (a := tensor.elementType), eq_comm (a := tensor.layout)]

/-- What a tensor's signature accepts is what the tensor takes over, if the buffer is sized. -/
theorem accepts_iff_replaceBuffer : tensor.signature.accepts other = true ↔
    (∃ taken, tensor.replaceBuffer other = .ok taken) ∧ other.Sized := by
  simp only [replaceBuffer_eq_ok, exists_and_left, exists_eq, and_true, sameSignature_eq_true,
    Signature.accepts_eq_true, signature, and_assoc]

section Replaced

variable (done : tensor.replaceBuffer other = .ok taken)

include done

theorem frame_of_replaceBuffer (sized : tensor.Sized) (otherSized : other.Sized) :
    taken.frame = tensor.frame := by
  obtain ⟨same, rfl⟩ := replaceBuffer_eq_ok.1 done
  obtain ⟨shape, elementType, _⟩ := sameSignature_eq_true.1 same
  refine frame_of_buffer elementType ?_
  rw [sized, otherSized, count, count, shape, elementType]

theorem sized_of_replaceBuffer : taken.Sized ↔ other.Sized := by
  obtain ⟨same, rfl⟩ := replaceBuffer_eq_ok.1 done
  obtain ⟨shape, elementType, _⟩ := sameSignature_eq_true.1 same
  unfold Sized count
  rw [shape]
  rfl

theorem Valid.valid_of_replaceBuffer (valid : tensor.Valid) : taken.Valid ↔ other.Sized := by
  constructor
  · intro takenValid
    exact (sized_of_replaceBuffer done).1 takenValid.sized
  · intro otherSized
    exact valid.of_frame (frame_of_replaceBuffer done valid.sized otherSized)

theorem accepts_of_replaceBuffer (sized : tensor.Sized) (signature : Signature) :
    signature.accepts taken = true ↔ signature.accepts tensor = true ∧ other.Sized := by
  rw [Signature.accepts_eq_true, Signature.accepts_eq_true, sized_of_replaceBuffer done]
  obtain ⟨same, rfl⟩ := replaceBuffer_eq_ok.1 done
  have elementType : other.buffer.elementType = tensor.buffer.elementType :=
    (sameSignature_eq_true.1 same).2.1
  simp only [Tensor.elementType, elementType, sized, and_true, and_assoc]

end Replaced

end Tensor

end TensorRuntime
