import TensorRuntime.Proofs.Kernel.AcceleratorSums
import TensorRuntime.Proofs.Kernel.ImageCalls

/-!
The law of the accelerator. A call of signed bytes with the weights that were staged for it stores,
for every place of the output, the sum over the weights as the caller holds them, with the bias,
scaled and clamped. The plain kernel for convolutions sums the same integers.
-/

namespace TensorRuntime

open Attempt

section Staging

variable {input weights output : Tensor} {rest : List Tensor} {affine outAffine : Affine}
  {record : Quantization} {kernel : Array Int} {outs ins height width : Nat} {op : AcceleratorOp}

theorem ByteCall.exists_stage [Host]
    (call : ByteCall input weights rest output affine record outAffine)
    (found : StagedWeights.extents op weights.dims = .ok (outs, ins, height, width))
    (count : weights.count = outs * ins * height * width)
    (room : ∀ bias, rest[0]? = some bias → bias.HasRoom) (routine : String) :
    ∃ staged, StagedWeights.stage op weights rest[0]? routine = .ok staged := by
  obtain ⟨starts, biasRead⟩ : ∃ starts, realBias rest[0]? = .ok starts := by
    cases present : rest[0]? with
    | none => exact ⟨none, rfl⟩
    | some bias =>
        have member : bias ∈ rest := List.mem_of_getElem? present
        obtain ⟨values, read⟩ :=
          (call.valid bias (by simp [member])).exists_toSingles (room bias present)
        exact ⟨some values, map_eq_ok.2 ⟨values, read, rfl⟩⟩
  exact StagedWeights.exists_stage (call.valid weights (by simp)) call.weightBytes
    (Tensor.weightRecord_of_outermost call.weightRecord call.outermost routine) found count biasRead

theorem ByteCall.centres [Host] (call : ByteCall input weights rest output affine record outAffine)
    (weightsHeld : weights.buffer.integers? = some kernel)
    (found : StagedWeights.extents op weights.dims = .ok (outs, ins, height, width))
    (count : weights.count = outs * ins * height * width)
    (biasDims : ∀ start, rest[0]? = some start → start.dims = [outs]) {routine : String}
    {params : Params} {derived : Option Derived}
    (hooked : stageWeights op routine params (input :: weights :: rest) = .ok derived) :
    ∃ starts staged, realBias rest[0]? = .ok starts ∧ derived = some (.stagedWeights staged) ∧
      staged.Centres kernel record starts outs ins height width := by
  obtain ⟨_, staged, listed, done, rfl⟩ := stageWeights_eq_ok hooked
  cases listed
  obtain ⟨own, ownRecord, starts, _, ownHeld, recorded, biasRead, centres⟩ :=
    StagedWeights.centres_of_stage (call.valid weights (by simp)) found count biasDims done
  cases weightsHeld.symm.trans ownHeld
  cases call.weightRecord.symm.trans (Tensor.weightRecord_eq_ok recorded).1
  exact ⟨starts, staged, biasRead, rfl, centres⟩

end Staging

end TensorRuntime
