import TensorRuntime.Proofs.Operator.Steps
import TensorRuntime.Proofs.OutputShape

/-!
What planning checks, as one statement for each step. None of them looks at what the
tensors hold, so tensors with the same signatures are planned alike, up to what is
captured of them.
-/

namespace TensorRuntime

open Attempt

namespace Registry

variable {registry : Registry} {backend : Backend} {allowFallback : Bool}

theorem resolve_eq_ok {params : Params} {inputs : List Tensor} {requested : Resolution} :
    registry.resolve params inputs backend allowFallback = .ok requested ↔
      ∃ op input others id path elementType kernel,
        params.classify inputs = .ok op ∧ inputs = input :: others ∧
        registry.choose op input.elementType backend allowFallback =
          .ok (id, path, elementType) ∧
        registry.kernel? id = some kernel ∧ kernel.supports (requestedLayout input) = true ∧
        requested = ⟨op, id, path, backend, requestedLayout input, elementType⟩ := by
  unfold resolve
  rw [bind_eq_ok]
  constructor
  · rintro ⟨op, classified, resolved⟩
    cases inputs with
    | nil => cases resolved
    | cons input others =>
        dsimp only at resolved
        rw [bind_eq_ok] at resolved
        obtain ⟨⟨id, path, elementType⟩, chosen, resolved⟩ := resolved
        dsimp only at resolved
        split at resolved
        · cases resolved
        · rename_i kernel found
          split at resolved
          · rename_i supported
            exact ⟨op, input, others, id, path, elementType, kernel, classified, rfl, chosen, found,
              supported, (pure_eq_ok.1 resolved).symm⟩
          · cases resolved
  · rintro ⟨op, input, others, id, path, elementType, kernel, classified, rfl, chosen, found,
      supported, rfl⟩
    refine ⟨op, classified, ?_⟩
    dsimp only
    rw [bind_eq_ok]
    refine ⟨_, chosen, ?_⟩
    dsimp only
    rw [found]
    dsimp only
    rw [if_pos supported]
    rfl

theorem resolve_of_signatures {params : Params} {inputs inputs' : List Tensor}
    {requested : Resolution}
    (same : inputs'.map Tensor.signature = inputs.map Tensor.signature)
    (resolved : registry.resolve params inputs backend allowFallback = .ok requested) :
    registry.resolve params inputs' backend allowFallback = .ok requested := by
  obtain ⟨op, input, others, id, path, elementType, kernel, classified, rfl, chosen, present,
    supported, rfl⟩ := resolve_eq_ok.1 resolved
  obtain ⟨input', others', rfl, signature, _⟩ := List.map_eq_cons_iff.1 same
  have outlines := Tensor.outlines_of_signatures same
  simp only [Tensor.signature, Signature.mk.injEq] at signature
  have layout : requestedLayout input' = requestedLayout input := by
    unfold requestedLayout Tensor.dims
    rw [signature.2.2.1, signature.1]
  refine resolve_eq_ok.2 ⟨op, input', others', id, path, elementType, kernel,
    Params.classify_of_outlines outlines classified, rfl, ?_, present, ?_, ?_⟩
  · rw [signature.2.1]
    exact chosen
  · rw [layout]
    exact supported
  · rw [layout]

end Registry

namespace Operator

variable {operator : Operator} {registry : Registry} {backend : Backend}
  {inputs inputs' outputs outputs' : List Tensor} {requested : Resolution} {kernel : Kernel}

theorem checkOutputs_eq_ok :
    operator.checkOutputs inputs outputs = .ok () ↔
      ∃ output input others, outputs = [output] ∧ inputs = input :: others ∧
        operator.params.outputShape inputs = .ok output.shape ∧
        output.elementType = input.elementType := by
  unfold checkOutputs
  rw [bind_eq_ok]
  constructor
  · rintro ⟨shape, inferred, checked⟩
    split at checked
    · rename_i output input others
      dsimp only at checked
      rw [guard_eq_ok, stop_eq_ok (fun impossible => by cases impossible)] at checked
      refine ⟨output, input, others, rfl, rfl, ?_, Classical.not_not.1 checked.2.1⟩
      rw [inferred, Classical.not_not.1 checked.1]
    · cases checked
  · rintro ⟨output, input, others, rfl, rfl, inferred, sameType⟩
    refine ⟨output.shape, inferred, ?_⟩
    simp only [ne_eq, not_true, if_false, sameType]
    rfl

theorem plan_of_resolved (checked : operator.checkOutputs inputs outputs = .ok ())
    (resolved : registry.resolve operator.params inputs backend operator.allowFallback =
      .ok requested)
    (found : registry.kernel? requested.kernel = some kernel) :
    operator.plan registry backend inputs outputs =
      .ok (requested, kernel, .capture kernel inputs outputs) := by
  unfold plan
  simp only [bind_eq_ok, lift_eq_ok]
  refine ⟨(), checked, requested, resolved, ?_⟩
  rw [found]
  rfl

theorem plan_of_signatures
    (sameInputs : inputs'.map Tensor.signature = inputs.map Tensor.signature)
    (sameOutputs : outputs'.map Tensor.signature = outputs.map Tensor.signature)
    (planned : operator.plan registry backend inputs outputs =
      .ok (requested, kernel, .capture kernel inputs outputs)) :
    operator.plan registry backend inputs' outputs' =
      .ok (requested, kernel, .capture kernel inputs' outputs') := by
  obtain ⟨checked, resolved, found, _⟩ := plan_eq_ok planned
  obtain ⟨output, input, others, rfl, rfl, inferred, sameType⟩ := checkOutputs_eq_ok.1 checked
  obtain ⟨output', rfl, outputSignature⟩ : ∃ output', outputs' = [output'] ∧
      output'.signature = output.signature := by
    rw [List.map_singleton, List.map_eq_singleton_iff] at sameOutputs
    exact sameOutputs
  obtain ⟨input', others', rfl, inputSignature, _⟩ := List.map_eq_cons_iff.1 sameInputs
  have outlines := Tensor.outlines_of_signatures sameInputs
  simp only [Tensor.signature, Signature.mk.injEq] at outputSignature inputSignature
  apply plan_of_resolved
  · refine checkOutputs_eq_ok.2 ⟨output', input', others', rfl, rfl, ?_, ?_⟩
    · rw [outputSignature.1]
      exact Params.outputShape_of_outlines outlines inferred
    · rw [outputSignature.2.1, inputSignature.2.1, sameType]
  · exact Registry.resolve_of_signatures sameInputs resolved
  · exact found

end Operator

end TensorRuntime
