import TensorRuntime.Proofs.Kernel.Overwriting
import TensorRuntime.Proofs.Operator.Calls

/-!
An executable operator overwrites its output on either path. Natively its kernel does;
through shadows the kernel writes a fresh shadow, whose values then fill the output.
-/

namespace TensorRuntime

open Attempt

def RunResult.SameWriting (first second : RunResult) : Prop :=
  second.outcome = first.outcome ∧ (first.outcome = .ok () → second.outputs = first.outputs)

theorem Kernel.onShadows_refill [Host] {kernel : Kernel} {params : Params} {inputs : List Tensor}
    {output output' : Tensor} {derived : Option Derived} (same : output'.frame = output.frame)
    (sized : output.Sized) :
    kernel.onShadows params inputs output' derived =
      kernel.onShadows params inputs output derived := by
  obtain ⟨buffer, fits, rfl⟩ := Tensor.refill_of_frame same
  have shadow : { output with buffer }.zeroShadow = output.zeroShadow := rfl
  unfold onShadows
  simp only [shadow, Tensor.writeSingles_refill fits sized]

theorem Kernel.runOnShadows_refill [Host] {kernel : Kernel} (keeps : kernel.KeepsFrames)
    {params : Params} {inputs : List Tensor} {output output' : Tensor} {derived : Option Derived}
    (same : output'.frame = output.frame) (sized : ∀ tensor ∈ output :: inputs, tensor.Sized)
    (ledger : ShadowLedger) :
    RunResult.SameWriting (kernel.runOnShadows ⟨params, inputs, [output], derived⟩ ledger).2
      (kernel.runOnShadows ⟨params, inputs, [output'], derived⟩ ledger).2 := by
  have inputsSized : ∀ tensor ∈ inputs, tensor.Sized :=
    fun tensor member => sized tensor (by simp [member])
  rw [Kernel.runOnShadows_eq keeps inputsSized, Kernel.runOnShadows_eq keeps inputsSized,
    Kernel.onShadows_refill same (sized output (by simp))]
  cases kernel.onShadows params inputs output derived with
  | error fault => exact ⟨rfl, fun impossible => by cases impossible⟩
  | ok stored => exact ⟨rfl, fun _ => rfl⟩

theorem forall_refilled {property : Tensor → Prop} {inputs outputs outputs' : List Tensor}
    (framed : ∀ {first second : Tensor}, property first → second.frame = first.frame →
      property second)
    (refilled : outputs'.map Tensor.frame = outputs.map Tensor.frame)
    (every : ∀ tensor ∈ inputs ++ outputs, property tensor) :
    ∀ tensor ∈ inputs ++ outputs', property tensor := by
  intro tensor member
  rcases List.mem_append.1 member with input | output
  · exact every tensor (by simp [input])
  · obtain ⟨original, listed, frame⟩ := Tensor.exists_of_frames refilled output
    exact framed (every original (by simp [listed])) frame

namespace OperatorRun

variable {registry : Registry} {run : OperatorRun} {backend : Backend}
  {inputs₀ outputs₀ inputs outputs outputs' : List Tensor}

/-- What an executable operator writes, and whether it succeeds, does not depend on what its outputs
held before. -/
theorem Sound.execute_refill [Host] (sound : run.Sound registry) (keeps : registry.KeepsFrames)
    (overwrites : ∀ entry ∈ registry.entries, entry.kernel.Overwrites)
    (executable : run.operator.binding.phase = .executable)
    (last : OperatorEvent.lastPrepared? run.history = some (backend, inputs₀, outputs₀))
    (preparedSized : ∀ tensor ∈ inputs₀, tensor.Sized)
    (sameInputs : inputs.map Tensor.signature = inputs₀.map Tensor.signature)
    (sameOutputs : outputs.map Tensor.signature = outputs₀.map Tensor.signature)
    (refilled : outputs'.map Tensor.frame = outputs.map Tensor.frame)
    (usable : ∀ tensor ∈ inputs ++ outputs, tensor.Usable)
    (sized : ∀ tensor ∈ inputs ++ outputs, tensor.Sized) (ledger ledger' : ShadowLedger) :
    (run.operator.execute registry inputs outputs' ledger').outcome =
        (run.operator.execute registry inputs outputs ledger).outcome ∧
      ((run.operator.execute registry inputs outputs ledger).outcome = .ok () →
        (run.operator.execute registry inputs outputs' ledger').outputs =
          (run.operator.execute registry inputs outputs ledger).outputs) := by
  obtain ⟨output, requested, kernel, rfl, runs⟩ :=
    sound.runs executable last preparedSized sameInputs sameOutputs usable sized
  have signatures := Tensor.signatures_of_frames refilled
  have usable' := forall_refilled Tensor.Usable.of_frame refilled usable
  have sized' := forall_refilled Tensor.Sized.of_frame refilled sized
  obtain ⟨output', requested', kernel', rfl, runs'⟩ :=
    sound.runs executable last preparedSized sameInputs (signatures.trans sameOutputs) usable'
      sized'
  have again := Operator.plan_of_signatures rfl signatures runs.planned
  rw [runs'.planned] at again
  obtain ⟨rfl, rfl⟩ : requested' = requested ∧ kernel' = kernel := by
    cases again
    exact ⟨rfl, rfl⟩
  have same : output'.frame = output.frame := by simpa using refilled
  obtain ⟨entry, member, own⟩ := Registry.mem_of_kernel? (Operator.plan_eq_ok runs.planned).2.2.1
  have written : RunResult.SameWriting
      (run.operator.runKernel kernel' requested'.path run.operator.binding.derived? inputs [output]
        ledger).2
      (run.operator.runKernel kernel' requested'.path run.operator.binding.derived? inputs [output']
        ledger').2 := by
    rw [run.operator.runKernel_ledger kernel' _ _ inputs [output'] ledger' ledger]
    cases path : requested'.path with
    | native =>
        exact (own ▸ overwrites entry member) run.operator.params inputs _ output output'
          (runs.native path) same
    | quantFallback =>
        exact Kernel.runOnShadows_refill (own ▸ keeps entry member) same
          (fun tensor member => sized tensor (by simpa [or_comm] using member)) ledger
  obtain ⟨outcome, outputs⟩ := runs.executed ledger
  obtain ⟨outcome', outputs'⟩ := runs'.executed ledger'
  rw [outcome, outcome', outputs, outputs', written.1]
  refine ⟨rfl, fun done => written.2 ?_⟩
  cases ran : (run.operator.runKernel kernel' requested'.path run.operator.binding.derived? inputs
      [output] ledger).2.outcome with
  | error fault =>
      rw [ran] at done
      cases done
  | ok _ => rfl

end OperatorRun

end TensorRuntime
