import TensorRuntime.Proofs.Shadows

/-!
The ledger of shadows. Shadows are made in order up to the first that cannot be made, and all
shadows of a call are released with it, however it ends.
-/

namespace TensorRuntime

open Attempt

namespace ShadowLedger

theorem release_grow (ledger : ShadowLedger) (count : Nat) :
    (ledger.grow count).release count = ⟨ledger.live, ledger.allocated + count⟩ := by
  unfold grow release
  simp

theorem release_grow_grow (ledger : ShadowLedger) (first second : Nat) :
    ((ledger.grow first).grow second).release (first + second) =
      ⟨ledger.live, ledger.allocated + first + second⟩ := by
  unfold grow release
  simp
  omega

end ShadowLedger

section

variable [Host]

/-- The quantized tensors that get a shadow: those before the first that cannot be read. -/
def dequantizedFirst (inputs : List Tensor) : List Tensor :=
  (inputs.filter Tensor.needsShadow).takeWhile fun input => input.dequantized.isOk

def zeroedFirst (outputs : List Tensor) : List Tensor :=
  outputs.takeWhile fun output => output.zeroShadow.isOk

theorem floatViews_made (inputs : List Tensor) :
    (floatViews inputs).1 = (dequantizedFirst inputs).length := by
  unfold dequantizedFirst
  induction inputs with
  | nil => rfl
  | cons input rest ih =>
      rw [floatViews]
      by_cases shadowed : input.needsShadow = true
      · rw [if_pos shadowed, List.filter_cons_of_pos shadowed]
        cases viewed : input.dequantized with
        | error fault => simp [viewed, Except.isOk, Except.toBool]
        | ok shadow => simp [viewed, Except.isOk, Except.toBool, ih]
      · rw [if_neg shadowed, List.filter_cons_of_neg shadowed]
        exact ih

theorem outputShadows_made (outputs : List Tensor) :
    (outputShadows outputs).1 = (zeroedFirst outputs).length := by
  unfold zeroedFirst
  induction outputs with
  | nil => rfl
  | cons output rest ih =>
      rw [outputShadows]
      cases shadowed : output.zeroShadow with
      | error fault => simp [shadowed, Except.isOk, Except.toBool]
      | ok shadow => simp [shadowed, Except.isOk, Except.toBool, ih]

namespace Tensor

theorem zeroShadow_isOk {tensor : Tensor} (shaped : tensor.Shaped) :
    tensor.zeroShadow.isOk = true ↔ tensor.HasRoom := by
  constructor
  · intro made
    cases shadowed : tensor.zeroShadow with
    | error fault =>
        rw [shadowed] at made
        cases made
    | ok shadow => exact hasRoom_of_allocate (zeroShadow_eq_ok.1 shadowed).1
  · intro room
    have shadowed : tensor.zeroShadow = .ok _ :=
      zeroShadow_eq_ok.2 ⟨room.allocate _, rfl, shaped.asSingles (by simp)⟩
    rw [shadowed]
    rfl

end Tensor

theorem zeroedFirst_eq {outputs : List Tensor}
    (roomy : ∀ output ∈ outputs, output.Shaped ∧ output.HasRoom) :
    zeroedFirst outputs = outputs := by
  unfold zeroedFirst
  induction outputs with
  | nil => rfl
  | cons output rest ih =>
      have own := roomy output List.mem_cons_self
      have made := (Tensor.zeroShadow_isOk own.1).2 own.2
      rw [List.takeWhile_cons, if_pos made]
      rw [ih fun later member => roomy later (List.mem_cons_of_mem _ member)]

def AllDequantize (inputs : List Tensor) : Prop :=
  ∀ input ∈ inputs, input.needsShadow = true → input.dequantized.isOk = true

instance (inputs : List Tensor) : Decidable (AllDequantize inputs) :=
  inferInstanceAs (Decidable (∀ input ∈ inputs, _ → _))

theorem allDequantize_iff {inputs : List Tensor} :
    AllDequantize inputs ↔ ∃ views, (floatViews inputs).2 = .ok views := by
  rw [floatViews_eq_mapM]
  constructor
  · intro all
    refine exists_mapM fun input member => ?_
    unfold Tensor.floatView
    by_cases shadowed : input.needsShadow = true
    · rw [if_pos shadowed]
      have made := all input member shadowed
      cases viewed : input.dequantized with
      | error fault =>
          rw [viewed] at made
          cases made
      | ok shadow => exact ⟨shadow, rfl⟩
    · rw [if_neg shadowed]
      exact ⟨input, rfl⟩
  · rintro ⟨views, viewed⟩ input member shadowed
    rw [mapM_eq_ok] at viewed
    have listed : input.floatView ∈ views.map .ok := viewed ▸ List.mem_map_of_mem member
    obtain ⟨view, _, made⟩ := List.mem_map.1 listed
    rw [Tensor.floatView, if_pos shadowed] at made
    rw [← made]
    rfl

namespace Kernel

variable (kernel : Kernel) (call : Call) (ledger : ShadowLedger)

theorem precomputeOnShadows_ledger (params : Params) (inputs : List Tensor) :
    (kernel.precomputeOnShadows params inputs ledger).1 =
      ⟨ledger.live, ledger.allocated + (dequantizedFirst inputs).length⟩ := by
  rw [← floatViews_made]
  exact ledger.release_grow _

/-- A run either stops without a change to the outputs, or the kernel succeeds on shadows. -/
theorem runOnShadows_cases :
    (∃ fault, (kernel.runOnShadows call ledger).2 = ⟨call.outputs, .error fault⟩) ∨
      ∃ views shadows, (floatViews call.inputs).2 = .ok views ∧
        (outputShadows call.outputs).2 = .ok shadows ∧
        (kernel.run { call with inputs := views, outputs := shadows }).outcome = .ok () := by
  unfold runOnShadows
  dsimp only
  cases (floatViews call.inputs).2 with
  | error fault => exact .inl ⟨fault, rfl⟩
  | ok views =>
      cases (outputShadows call.outputs).2 with
      | error fault => exact .inl ⟨fault, rfl⟩
      | ok shadows =>
          dsimp only
          cases ran : (kernel.run { call with inputs := views, outputs := shadows }).outcome with
          | error fault => exact .inl ⟨fault, rfl⟩
          | ok _ => exact .inr ⟨views, shadows, rfl, rfl, ran⟩

/-- However a run ends, the ledger is back where it was but for what was allocated. -/
theorem runOnShadows_released :
    (kernel.runOnShadows call ledger).1 =
      ⟨ledger.live, ledger.allocated + (dequantizedFirst call.inputs).length +
        if AllDequantize call.inputs then (zeroedFirst call.outputs).length else 0⟩ := by
  rw [← floatViews_made, ← outputShadows_made]
  by_cases all : AllDequantize call.inputs
  · obtain ⟨views, viewed⟩ := allDequantize_iff.1 all
    rw [if_pos all, ← ledger.release_grow_grow]
    unfold runOnShadows
    dsimp only
    rw [viewed]
    cases (outputShadows call.outputs).2 with
    | error fault => rfl
    | ok shadows =>
        dsimp only
        cases (kernel.run { call with inputs := views, outputs := shadows }).outcome <;> rfl
  · rw [if_neg all, Nat.add_zero, ← ledger.release_grow]
    unfold runOnShadows
    dsimp only
    cases viewed : (floatViews call.inputs).2 with
    | error fault => rfl
    | ok views => exact absurd (allDequantize_iff.2 ⟨views, viewed⟩) all

/-- Shadows do not outlive their call. The shadows that were made are those of the quantized inputs
before the first that cannot be read and, where all can be read, those of the outputs before the
first that there is no room for; outputs only change once the kernel has succeeded. -/
theorem shadows_end_with_call :
    (kernel.precomputeOnShadows call.params call.inputs ledger).1 =
      ⟨ledger.live, ledger.allocated + (dequantizedFirst call.inputs).length⟩ ∧
    (kernel.runOnShadows call ledger).1 =
      ⟨ledger.live, ledger.allocated + (dequantizedFirst call.inputs).length +
        if AllDequantize call.inputs then (zeroedFirst call.outputs).length else 0⟩ ∧
    ((∀ output ∈ call.outputs, output.Shaped ∧ output.HasRoom) →
      zeroedFirst call.outputs = call.outputs) ∧
    ((∃ fault, (kernel.runOnShadows call ledger).2 = ⟨call.outputs, .error fault⟩) ∨
      ∃ views shadows, (floatViews call.inputs).2 = .ok views ∧
        (outputShadows call.outputs).2 = .ok shadows ∧
        (kernel.run { call with inputs := views, outputs := shadows }).outcome = .ok ()) :=
  ⟨kernel.precomputeOnShadows_ledger ledger call.params call.inputs,
    kernel.runOnShadows_released call ledger, zeroedFirst_eq, kernel.runOnShadows_cases call ledger⟩

end Kernel

end

namespace Kernel

def halfSteps : Tensor :=
  ⟨"", ⟨[4]⟩, .any, some (.perTensor ⟨⟨0x3F000000⟩, 0⟩), .external, .i8 #[1, 2, 3, 4]⟩

def shortSteps : Tensor := { halfSteps with buffer := .i8 #[1, 2] }

/-- A sum of two inputs after seven shadows, three of them alive. -/
theorem sum_returns_shadows :
    let sum (second : Tensor) : Call :=
      ⟨.binary .add .none, [halfSteps, second], [halfSteps], none⟩
    (binaryKernel.runOnShadows (sum halfSteps) ⟨3, 7⟩).1 = ⟨3, 10⟩ ∧
      (binaryKernel.runOnShadows (sum shortSteps) ⟨3, 7⟩).1 = ⟨3, 8⟩ ∧
      (binaryKernel.runOnShadows (sum shortSteps) ⟨3, 7⟩).2.outputs = [halfSteps] := by
  intro sum
  obtain ⟨_, whole, room, _⟩ := shadows_end_with_call binaryKernel (sum halfSteps) ⟨3, 7⟩
  obtain ⟨_, short, _, ended⟩ := shadows_end_with_call binaryKernel (sum shortSteps) ⟨3, 7⟩
  have zeroed : zeroedFirst [halfSteps] = [halfSteps] := by
    refine room fun output member => ?_
    rw [List.mem_singleton.1 member]
    exact ⟨⟨by decide, rfl⟩, Nat.le_of_ble_eq_true rfl⟩
  have viewed : (dequantizedFirst [halfSteps, halfSteps]).length = 2 := by decide +kernel
  have cut : (dequantizedFirst [halfSteps, shortSteps]).length = 1 := by decide +kernel
  have all : AllDequantize [halfSteps, halfSteps] := by decide +kernel
  have unread : ¬ AllDequantize [halfSteps, shortSteps] := by decide +kernel
  refine ⟨?_, ?_, ?_⟩
  · rw [whole, if_pos all]
    change (⟨3, 7 + (dequantizedFirst [halfSteps, halfSteps]).length +
      (zeroedFirst [halfSteps]).length⟩ : ShadowLedger) = _
    rw [viewed, zeroed]
    rfl
  · rw [short, if_neg unread]
    change (⟨3, 7 + (dequantizedFirst [halfSteps, shortSteps]).length + 0⟩ : ShadowLedger) = _
    rw [cut]
  · obtain ⟨fault, stopped⟩ | ⟨views, _, read, _⟩ := ended
    · rw [stopped]
    · exact absurd (allDequantize_iff.2 ⟨views, read⟩) unread

end Kernel

end TensorRuntime
