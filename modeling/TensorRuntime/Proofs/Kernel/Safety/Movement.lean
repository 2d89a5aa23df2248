import TensorRuntime.Proofs.Kernel.Movement
import TensorRuntime.Proofs.Kernel.Padding
import TensorRuntime.Proofs.Kernel.Safety.Calls
import TensorRuntime.Proofs.Positions

/-!
Operators that move elements never abort. Every position that a transpose reads is inside
its input, and every place that padding writes is inside its output.
-/

namespace TensorRuntime

open Attempt

section Gather

theorem safe_gatherInto {α : Type} {values old : Array α} {sources : List Nat}
    (inside : ∀ source ∈ sources, source < values.size) :
    (gatherInto values old sources).Safe :=
  (safe_mapM fun source member => safe_readAt (inside source (List.mem_of_mem_take member))).bind
    fun _ _ => safe_pure _

theorem safe_gatherBits {packed old : Array UInt8} {sources : List Nat}
    (inside : ∀ source ∈ sources, source / 8 < packed.size)
    (room : sources.length ≤ 8 * old.size) : (gatherBits packed old sources).Safe := by
  refine (safe_mapM fun source member => Buffer.safe_readBit (inside source member)).bind
    fun values read => Buffer.safe_writeBits ?_
  have length := congrArg List.length (mapM_eq_ok.1 read)
  simp only [List.length_map] at length
  omega

theorem Tensor.safe_gather {input output : Tensor} (inputSized : input.Sized)
    (outputSized : output.Sized) {sources : List Nat}
    (inside : ∀ source ∈ sources, source < input.count) (room : sources.length ≤ output.count) :
    (input.buffer.gather output.buffer sources).Safe := by
  unfold Buffer.gather
  split
  case h_1 held _ => exact (safe_gatherInto (inputSized.singles held ▸ inside)).map _
  case h_2 held _ => exact (safe_gatherInto (inputSized.halves held ▸ inside)).map _
  case h_3 held _ | h_4 held _ | h_5 held _ | h_6 held _ =>
    have size := inputSized.stored (congrArg Buffer.integers? held)
    rw [Array.size_map] at size
    exact (safe_gatherInto (size ▸ inside)).map _
  case h_7 held oldHeld =>
    have size := inputSized.bits held
    have oldSize := outputSized.bits oldHeld
    refine (safe_gatherBits (fun source member => ?_) (by omega)).map _
    have bound := inside source member
    omega
  case h_8 => exact safe_refuse _

end Gather

section Moves

variable {hook : Precompute} {op : OpKind} {params : Params} {inputs : List Tensor}
  {output : Tensor} {derived : Option Derived}

theorem reshapeBody_safe [Host] (call : AdmittedCall hook op params inputs output derived) :
    (reshapeBody ⟨params, inputs, [output], derived⟩).Safe := by
  obtain ⟨input, others, rfl, inputSized, outputSized, _, _⟩ := call.head
  cases params with
  | reshape target =>
      unfold reshapeBody
      refine .bind_lift fun _ found => ?_
      cases found
      refine .bind_lift fun _ found => ?_
      cases found
      refine .bind_lift fun _ _ => safe_guard fun _ => ?_
      split
      · exact safe_pure _
      · exact (Tensor.safe_toSingles inputSized).bind fun _ _ =>
          Tensor.safe_writeSingles outputSized _
  | _ => exact safe_refuse _

theorem transposeBody_safe [Host] (call : AdmittedCall hook op params inputs output derived) :
    (transposeBody ⟨params, inputs, [output], derived⟩).Safe := by
  obtain ⟨input, others, rfl, inputSized, outputSized, _, inferred⟩ := call.head
  cases params with
  | transpose permutation =>
      obtain ⟨order, dims⟩ := Params.order_of_transpose others inferred
      have inside : ∀ source ∈ (List.range (volume input.dims)).map
          (transposeSource input.dims permutation), source < input.count := by
        intro source member
        obtain ⟨position, listed, rfl⟩ := List.mem_map.1 member
        have bound := List.mem_range.1 listed
        exact (coordinates_transposeSource order (Shape.volume_pos.1 (by omega)) position).1
      have counts : output.count = volume input.dims :=
        (congrArg volume dims).trans (volume_permuted order)
      unfold transposeBody
      refine .bind_lift fun _ found => ?_
      cases found
      refine .bind_lift fun _ found => ?_
      cases found
      refine .bind_lift fun _ _ => .bind_ok (transposeSources_eq order) ?_
      split
      · exact (Tensor.safe_gather inputSized outputSized inside (by simp [counts])).bind
          fun _ _ => safe_pure _
      · refine (Tensor.safe_toSingles inputSized).bind fun values read => ?_
        refine Safe.bind (safe_mapM fun source member => safe_readAt ?_)
          fun _ _ => Tensor.safe_writeSingles outputSized _
        rw [Tensor.size_of_toSingles read]
        exact inside source member
  | _ => exact safe_refuse _

end Moves

section Padding

theorem padBody_safe {hook : Precompute} {op : OpKind} {params : Params} {inputs : List Tensor}
    {output : Tensor} {derived : Option Derived}
    (call : AdmittedCall hook op params inputs output derived) :
    (padBody ⟨params, inputs, [output], derived⟩).Safe := by
  obtain ⟨input, others, rfl, inputSized, outputSized, _, inferred⟩ := call.head
  cases params with
  | pad pads value =>
      have fits : PaddedFits input.dims pads := call.padsFit
      obtain ⟨length, dims⟩ := (Params.outputShapeOf_pad fits).1 inferred
      unfold padBody
      refine .bind_lift fun _ found => ?_
      cases found
      refine .bind_lift fun _ found => ?_
      cases found
      refine Tensor.safe_bind_singles inputSized fun values size => ?_
      refine Call.safe_bind_output outputSized fun old oldSize => Safe.map _ ?_
      have count : output.count = volume (paddedDims input.dims pads) := congrArg volume dims
      rw [oldSize, count, show output.dims = _ from dims]
      obtain ⟨_, done, _⟩ := exists_padded length fits.2 size value
      exact .of_ok done
  | _ => exact safe_refuse _

end Padding

end TensorRuntime
