import TensorRuntime.Proofs.Kernel.Frames
import TensorRuntime.Proofs.Operator.Steps

/-!
Executing an operator keeps the frames of its outputs, on the native path and through
shadows, whether the run succeeds or not.
-/

namespace TensorRuntime

open Attempt

variable [Host]

theorem storeShadows_frames (outputs shadows : List Tensor) :
    (storeShadows outputs shadows).1.map Tensor.frame = outputs.map Tensor.frame := by
  induction outputs generalizing shadows with
  | nil => rfl
  | cons output rest ih =>
      cases shadows with
      | nil => rfl
      | cons shadow others =>
          unfold storeShadows
          dsimp only
          split
          · rfl
          · rename_i written stored
            have frame : written.frame = output.frame := by
              split at stored
              all_goals
                rw [bind_eq_ok] at stored
                obtain ⟨_, _, stored⟩ := stored
                exact Tensor.frame_of_writeSingles stored
            simp [frame, ih]

theorem Kernel.runOnShadows_frames (kernel : Kernel) (call : Call) (ledger : ShadowLedger) :
    (kernel.runOnShadows call ledger).2.outputs.map Tensor.frame =
      call.outputs.map Tensor.frame := by
  unfold runOnShadows
  dsimp only
  split
  · rfl
  · split
    · rfl
    · split
      · rfl
      · exact storeShadows_frames _ _

def Registry.KeepsFrames (registry : Registry) : Prop :=
  ∀ entry ∈ registry.entries, entry.kernel.KeepsFrames

def Registry.WritesOnlyData (registry : Registry) : Prop :=
  ∀ entry ∈ registry.entries, entry.kernel.WritesOnlyData

theorem Registry.default_writesOnlyData : Registry.default.WritesOnlyData :=
  fun entry member => (default_frames entry member).2

namespace Operator

variable {operator : Operator} {registry : Registry} {inputs outputs : List Tensor}

theorem execute_keeps {α : Type} {read : Tensor → α}
    (framed : ∀ first second : Tensor, first.frame = second.frame → read first = read second)
    (native : ∀ entry ∈ registry.entries, ∀ derived,
      (entry.kernel.run ⟨operator.params, inputs, outputs, derived⟩).outputs.map read =
        outputs.map read) (ledger : ShadowLedger) :
    (operator.execute registry inputs outputs ledger).outputs.map read = outputs.map read := by
  obtain ⟨_, refused⟩ | ⟨resolution, kernel, executable, present, checked, found⟩ :=
    operator.execute_cases registry inputs outputs ledger
  · rw [refused]
  · rw [(execute_bound executable present checked found).2]
    obtain ⟨entry, member, own⟩ := Registry.mem_of_kernel? found
    cases path : resolution.path with
    | native => exact own ▸ native entry member operator.binding.derived?
    | quantFallback => exact Tensor.reads_of_frames framed (kernel.runOnShadows_frames _ ledger)

theorem execute_frames (operator : Operator) (keeps : registry.KeepsFrames)
    (sized : ∀ tensor ∈ inputs ++ outputs, tensor.Sized) (ledger : ShadowLedger) :
    (operator.execute registry inputs outputs ledger).outputs.map Tensor.frame =
      outputs.map Tensor.frame :=
  execute_keeps (fun _ _ same => same)
    (fun entry member derived => keeps entry member ⟨_, _, _, derived⟩ sized) ledger

theorem length_execute_outputs (operator : Operator) (keeps : registry.KeepsFrames)
    (sized : ∀ tensor ∈ inputs ++ outputs, tensor.Sized) (ledger : ShadowLedger) :
    (operator.execute registry inputs outputs ledger).outputs.length = outputs.length := by
  simpa using congrArg List.length (operator.execute_frames keeps sized ledger)

theorem execute_withoutData (operator : Operator) (keeps : registry.WritesOnlyData)
    (inputs outputs : List Tensor) (ledger : ShadowLedger) :
    (operator.execute registry inputs outputs ledger).outputs.map Tensor.withoutData =
      outputs.map Tensor.withoutData :=
  execute_keeps (fun _ _ => Tensor.withoutData_of_frame)
    (fun entry member derived => keeps entry member ⟨_, _, _, derived⟩) ledger

end Operator

end TensorRuntime
