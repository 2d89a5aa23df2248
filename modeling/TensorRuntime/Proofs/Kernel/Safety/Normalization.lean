import TensorRuntime.Proofs.Kernel.Safety.Calls
import TensorRuntime.Proofs.Kernel.SoftmaxLaw

/-!
Normalisations never abort. An element of the input is in some channel, for which there
are a scale and a shift, and a softmax gives every element its share.
-/

namespace TensorRuntime

open Attempt

section BatchNorm

theorem batchNormAxis_lt {input : Tensor} {axis : Nat} (located : batchNormAxis input = .ok axis) :
    axis < input.dims.length := by
  unfold batchNormAxis at located
  dsimp only at located
  split at located
  · cases located
  · rename_i inside
    cases located
    exact Nat.lt_of_not_le (not_or.1 inside).2

theorem safe_normalize {folded : FoldedNorm} {index channels inner : Nat} {value : Single}
    (scales : folded.scale.size = channels) (shifts : folded.shift.size = channels)
    (wide : 0 < channels) (deep : 0 < inner) :
    (do
      nonzero inner
      nonzero channels
      let channel := index / inner % channels
      return value * (← readAt folded.scale channel) + (← readAt folded.shift channel) :
        Attempt Single).Safe := by
  have bound := Nat.mod_lt (index / inner) wide
  exact (safe_nonzero deep).bind fun _ _ => (safe_nonzero wide).bind fun _ _ =>
    (safe_readAt (scales ▸ bound)).bind fun _ _ => (safe_readAt (shifts ▸ bound)).bind fun _ _ =>
      safe_pure _

theorem batchNormBody_safe {hook : Precompute} {op : OpKind} {params : Params}
    {inputs : List Tensor} {output : Tensor} {derived : Option Derived}
    (call : AdmittedCall hook op params inputs output derived) :
    (batchNormBody ⟨params, inputs, [output], derived⟩).Safe := by
  obtain ⟨input, others, rfl, inputSized, outputSized, _, _⟩ := call.head
  unfold batchNormBody
  refine .bind_lift fun _ found => ?_
  cases found
  refine (safe_derivedOr fun _ => safe_lift _).bind fun folded _ => ?_
  refine .bind_lift fun axis located => ?_
  have inside := batchNormAxis_lt located
  refine safe_guard fun channels => ?_
  obtain ⟨scales, shifts⟩ := not_or.1 channels
  refine Tensor.safe_bind_singles inputSized fun values size => ?_
  refine Call.safe_bind_output outputSized fun old _ => ?_
  refine (safe_tabulate fun index bound => ?_).map _
  cases held : values[index]? with
  | none => exact safe_readAt bound
  | some value =>
      have extent : input.dims[axis]? = some (input.dims.getD axis 0) := by simp [inside]
      have positive : 0 < volume (input.dims.take axis) * input.dims.getD axis 0 *
          volume (input.dims.drop (axis + 1)) := by
        have below : index < input.count := size ▸ (Array.getElem?_eq_some_iff.1 held).1
        rw [← volume_split extent]
        exact Nat.zero_lt_of_lt below
      exact safe_normalize (Classical.not_not.1 scales) (Classical.not_not.1 shifts)
        (Nat.pos_of_mul_pos_left (Nat.pos_of_mul_pos_right positive))
        (Nat.pos_of_mul_pos_left positive)

end BatchNorm

section Softmax

theorem safe_softmaxInto {values old : Array Single} {dims : List Nat} {axis : Nat}
    (inside : axis < dims.length) (size : values.size = volume dims)
    (oldSize : old.size = volume dims) : (softmaxInto values dims axis old).Safe := by
  obtain ⟨written, done, _⟩ := exists_softmax LineArithmetic.single inside size oldSize
  exact .of_ok ((softmaxInto_eq inside size oldSize).trans done)

theorem softmaxBody_safe {hook : Precompute} {op : OpKind} {params : Params} {inputs : List Tensor}
    {output : Tensor} {derived : Option Derived}
    (call : AdmittedCall hook op params inputs output derived) :
    (softmaxBody ⟨params, inputs, [output], derived⟩).Safe := by
  obtain ⟨input, others, rfl, inputSized, outputSized, _, inferred⟩ := call.head
  cases params with
  | softmax axis =>
      obtain ⟨inside, same⟩ := Params.axis_of_softmax inferred
      unfold softmaxBody
      refine .bind_lift fun _ found => ?_
      cases found
      refine safe_guard fun _ => ?_
      refine Call.safe_bind_output outputSized fun old oldSize => ?_
      refine Tensor.safe_bind_singles inputSized fun values size => Safe.map _ ?_
      exact safe_softmaxInto inside size (oldSize.trans (congrArg Shape.count same))
  | _ => exact safe_refuse _

end Softmax

end TensorRuntime
