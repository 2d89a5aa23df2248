import TensorRuntime.Proofs.Kernel.Prepared
import TensorRuntime.Proofs.Operator.Admission
import TensorRuntime.Proofs.Operator.Fresh
import TensorRuntime.Proofs.Shadows

/-!
What an executable operator hands to its kernel. On tensors with the signatures of its
latest prepare the call is a prepared one: natively on the tensors themselves, else on
their single-precision views.
-/

namespace TensorRuntime

open Attempt

variable [Host]

theorem Tensor.toSingles_of_shadow {tensor shadow written : Tensor}
    (shadowed : tensor.zeroShadow = .ok shadow) (frame : written.frame = shadow.frame) :
    ∃ values, written.buffer = .f32 values ∧ written.toSingles = .ok values := by
  obtain ⟨allocated, rfl, valid⟩ := Tensor.zeroShadow_eq_ok.1 shadowed
  have sized := valid.sized.of_frame frame
  obtain ⟨_, _, signature, _⟩ := Tensor.frame_eq_iff.1 frame
  simp only [Tensor.signature, Signature.mk.injEq] at signature
  have count : written.count = tensor.count := congrArg Shape.count signature.1
  have single : written.buffer.elementType = .f32 := signature.2.1
  cases held : written.buffer with
  | f32 values =>
      refine ⟨values, rfl, ?_⟩
      unfold toSingles
      rw [bind_eq_ok]
      refine ⟨(), ?_, ?_⟩
      · rw [lift_eq_ok, count]
        unfold Buffer.allocate at allocated ⊢
        split at allocated
        · rename_i small
          rw [if_pos small]
        · cases allocated
      · rw [held]
        dsimp only
        rw [if_pos (sized.singles held)]
        rfl
  | f16 | i8 | u8 | i16 | i32 | bool =>
      rw [held] at single
      cases single

def RunResult.ofAttempt (held : Tensor) : Attempt Tensor → RunResult
  | .ok stored => ⟨[stored], .ok ()⟩
  | .error fault => ⟨[held], .error fault⟩

namespace Kernel

variable {kernel : Kernel} {params : Params} {inputs : List Tensor} {output : Tensor}
  {derived : Option Derived}

/-- What a kernel for singles stores in an output: it runs on views of the inputs and a shadow of
the output, and the values of the shadow are stored. -/
def onShadows (kernel : Kernel) (params : Params) (inputs : List Tensor) (output : Tensor)
    (derived : Option Derived) : Attempt Tensor := do
  let views ← inputs.mapM Tensor.floatView
  let shadow ← output.zeroShadow
  let result := kernel.run ⟨params, views, [shadow], derived⟩
  result.outcome
  match result.outputs with
  | [written] => output.writeSingles (← written.toSingles)
  | _ => Attempt.abort

omit [Host] in
theorem KeepsFrames.single (keeps : kernel.KeepsFrames) (sized : ∀ tensor ∈ inputs, tensor.Sized)
    (outputSized : output.Sized) :
    ∃ written, (kernel.run ⟨params, inputs, [output], derived⟩).outputs = [written] ∧
      written.frame = output.frame := by
  have frames := keeps ⟨params, inputs, [output], derived⟩ (by
    intro tensor member
    rcases List.mem_append.1 member with input | own
    · exact sized tensor input
    · rw [List.mem_singleton.1 own]
      exact outputSized)
  simpa [List.map_eq_singleton_iff] using frames

theorem runOnShadows_eq (keeps : kernel.KeepsFrames) (sized : ∀ tensor ∈ inputs, tensor.Sized)
    (ledger : ShadowLedger) :
    (kernel.runOnShadows ⟨params, inputs, [output], derived⟩ ledger).2 =
      .ofAttempt output (kernel.onShadows params inputs output derived) := by
  unfold runOnShadows onShadows
  dsimp only
  rw [← floatViews_eq_mapM]
  cases viewed : (floatViews inputs).2 with
  | error fault => rfl
  | ok views =>
      rw [floatViews_eq_mapM] at viewed
      have viewsSized := floatViews_sized sized viewed
      cases shadowed : output.zeroShadow with
      | error fault =>
          simp only [outputShadows, shadowed]
          rfl
      | ok shadow =>
          obtain ⟨_, _, shadowValid⟩ := Tensor.zeroShadow_eq_ok.1 shadowed
          obtain ⟨written, outputs, frame⟩ :=
            @KeepsFrames.single kernel params views shadow derived keeps viewsSized
              shadowValid.sized
          obtain ⟨values, held, read⟩ := Tensor.toSingles_of_shadow shadowed frame
          have shadows : (outputShadows [output]).2 = .ok [shadow] := by
            simp only [outputShadows, shadowed]
            rfl
          rw [shadows]
          dsimp only [bind, Except.bind]
          rw [outputs]
          cases (kernel.run ⟨params, views, [shadow], derived⟩).outcome with
          | error fault => rfl
          | ok _ =>
              dsimp only [storeShadows, bind, Except.bind]
              rw [held, read]
              dsimp only [pure, Except.pure]
              cases output.writeSingles values <;> rfl

end Kernel

namespace Operator

variable {operator : Operator} {registry : Registry} {backend : Backend} {kernel : Kernel}
  {derived : Option Derived}

theorem precompute_of_derive_fallback {prepared : List Tensor} {ledger : ShadowLedger}
    (done : (operator.derive kernel .quantFallback prepared ledger).2 = .ok derived) :
    (∀ inputs, kernel.precompute operator.params inputs = .ok derived) ∨
      ∃ views, prepared.mapM Tensor.floatView = .ok views ∧
        kernel.precompute operator.params views = .ok derived := by
  cases hooked : kernel.hasPrecompute with
  | false =>
      refine .inl fun inputs => ?_
      rw [← operator.derive_native kernel inputs ledger, derive_hookless operator hooked]
      rw [derive_hookless operator hooked] at done
      exact done
  | true =>
      rw [derive_fallback operator hooked] at done
      exact .inr (bind_eq_ok.1 done)

theorem precompute_of_derive_views {prepared inputs views : List Tensor} {ledger : ShadowLedger}
    (signatures : inputs.map Tensor.signature = prepared.map Tensor.signature)
    (preparedSized : ∀ tensor ∈ prepared, tensor.Sized) (sized : ∀ tensor ∈ inputs, tensor.Sized)
    (viewed : inputs.mapM Tensor.floatView = .ok views)
    (done : (operator.derive kernel .quantFallback prepared ledger).2 = .ok derived) :
    ∃ earlier, earlier.map Tensor.signature = views.map Tensor.signature ∧
      (∀ tensor ∈ earlier, tensor.Sized) ∧
      kernel.precompute operator.params earlier = .ok derived := by
  rcases precompute_of_derive_fallback done with always | ⟨earlier, earlierViewed, hooked⟩
  · exact ⟨views, rfl, floatViews_sized sized viewed, always views⟩
  · exact ⟨earlier, floatViews_signatures signatures.symm viewed earlierViewed,
      floatViews_sized preparedSized earlierViewed, hooked⟩

end Operator

namespace OperatorRun

variable {registry : Registry} {run : OperatorRun} {backend : Backend}
  {inputs₀ outputs₀ inputs outputs : List Tensor}

/-- What an executable operator runs on tensors with the signatures of its latest prepare. -/
structure Runs (run : OperatorRun) (registry : Registry) (backend : Backend)
    (inputs : List Tensor) (output : Tensor) (requested : Resolution) (kernel : Kernel) :
    Prop where
  planned : run.operator.plan registry backend inputs [output] =
    .ok (requested, kernel, .capture kernel inputs [output])
  executed : ∀ ledger,
    let ran := run.operator.runKernel kernel requested.path run.operator.binding.derived? inputs
      [output] ledger
    (run.operator.execute registry inputs [output] ledger).outcome =
        ran.2.outcome.mapError (Operator.reported kernel) ∧
      (run.operator.execute registry inputs [output] ledger).outputs = ran.2.outputs
  native : requested.path = .native →
    PreparedCall kernel.precompute run.operator.params inputs output run.operator.binding.derived?
  shadowed : requested.path = .quantFallback → ∀ views,
    inputs.mapM Tensor.floatView = .ok views →
    ∃ earlier, earlier.map Tensor.signature = views.map Tensor.signature ∧
      (∀ tensor ∈ earlier, tensor.Sized) ∧
      kernel.precompute run.operator.params earlier = .ok run.operator.binding.derived?

theorem Sound.runs (sound : run.Sound registry)
    (executable : run.operator.binding.phase = .executable)
    (last : OperatorEvent.lastPrepared? run.history = some (backend, inputs₀, outputs₀))
    (preparedSized : ∀ tensor ∈ inputs₀, tensor.Sized)
    (sameInputs : inputs.map Tensor.signature = inputs₀.map Tensor.signature)
    (sameOutputs : outputs.map Tensor.signature = outputs₀.map Tensor.signature)
    (usable : ∀ tensor ∈ inputs ++ outputs, tensor.Usable)
    (sized : ∀ tensor ∈ inputs ++ outputs, tensor.Sized) :
    ∃ output requested kernel, outputs = [output] ∧
      run.Runs registry backend inputs output requested kernel := by
  obtain ⟨resolution, requested, kernel, _, _, _, present, found, last', planned, sameKernel,
    samePath, bound, _, derived, _⟩ := sound.executable executable
  rw [last] at last'
  cases last'
  have again := Operator.plan_of_signatures sameInputs sameOutputs planned
  obtain ⟨output, input, others, rfl, rfl, inferred, sameType⟩ :=
    Operator.checkOutputs_eq_ok.1 (Operator.plan_eq_ok again).1
  refine ⟨output, requested, kernel, rfl, again, ?_, ?_, ?_⟩
  · intro ledger
    rw [← samePath]
    exact Operator.execute_bound executable present
      (Operator.checkBound_of_signatures bound sameInputs sameOutputs usable sized) found
  · intro native
    refine ⟨inferred, ?_, ?_, inputs₀, sameInputs.symm, preparedSized, ?_⟩
    · intro _ _ same
      cases same
      exact sameType
    · intro tensor member
      exact sized tensor (by simpa [or_comm, or_left_comm] using member)
    · rw [samePath, native] at derived
      exact (Operator.derive_native _ _ _ _).symm.trans (derived .empty)
  · intro fallback views viewed
    rw [samePath, fallback] at derived
    exact Operator.precompute_of_derive_views sameInputs preparedSized
      (fun tensor member => sized tensor (List.mem_append_left _ member)) viewed (derived .empty)

end OperatorRun

end TensorRuntime
