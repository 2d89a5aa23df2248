import TensorRuntime.Proofs.Operator.Frames
import TensorRuntime.Proofs.Operator.Lifecycle

/-!
An executable operator and the tensors it is bound to: tensors with the bound
signatures pass its check, and a run on them can only fail inside the kernel.
-/

namespace TensorRuntime

open Attempt

/-- The cause is neither the wiring of a graph nor the shape of a tensor. -/
def Error.SparesGraph (error : Error) : Prop :=
  (∀ reason, error.root ≠ .invalidGraph reason) ∧
    ∀ context expected got, error.root ≠ .shapeMismatch context expected got

theorem Error.SparesGraph.inOperator {cause : Error} (spares : cause.SparesGraph) (index : Nat)
    (name : String) : (Error.inOperator index name cause).SparesGraph := by
  rwa [SparesGraph, root_inOperator]

namespace BoundTensors

theorem mismatch?_of_signatures {given : List Tensor} {place : Nat}
    (usable : ∀ tensor ∈ given, tensor.Usable) (sized : ∀ tensor ∈ given, tensor.Sized) :
    mismatch? (given.map Tensor.signature) given place = none := by
  induction given generalizing place with
  | nil => rfl
  | cons tensor rest ih =>
      have accepted : tensor.signature.accepts tensor = true :=
        (Signature.accepts_iff (usable tensor (by simp))
          (show Quantization.UsableOption tensor.quantization from usable tensor (by simp))).2
          ⟨rfl, sized tensor (by simp)⟩
      rw [List.map_cons, mismatch?, if_pos accepted]
      exact ih (fun other member => usable other (by simp [member]))
        fun other member => sized other (by simp [member])

theorem checkRole_of_signatures (operator role : String) {bound : List Signature}
    {given : List Tensor} (signatures : bound = given.map Tensor.signature)
    (usable : ∀ tensor ∈ given, tensor.Usable) (sized : ∀ tensor ∈ given, tensor.Sized) :
    checkRole operator role bound given = .ok () := by
  subst signatures
  unfold checkRole
  rw [if_neg (by simp), mismatch?_of_signatures usable sized]

theorem check_of_signatures (operator : String) {bound : BoundTensors}
    {inputs outputs : List Tensor} (inputSignatures : bound.inputs = inputs.map Tensor.signature)
    (outputSignatures : bound.outputs = outputs.map Tensor.signature)
    (usable : ∀ tensor ∈ inputs ++ outputs, tensor.Usable)
    (sized : ∀ tensor ∈ inputs ++ outputs, tensor.Sized) :
    bound.check operator inputs outputs = .ok () := by
  unfold check
  rw [checkRole_of_signatures operator "input" inputSignatures
    (fun tensor member => usable tensor (by simp [member]))
    fun tensor member => sized tensor (by simp [member])]
  exact checkRole_of_signatures operator "output" outputSignatures
    (fun tensor member => usable tensor (by simp [member]))
    fun tensor member => sized tensor (by simp [member])

end BoundTensors

namespace Operator

theorem checkBound_of_signatures {operator : Operator} {kernel : Kernel}
    {inputs₀ outputs₀ inputs outputs : List Tensor}
    (bound : operator.binding.bound? = some (.capture kernel inputs₀ outputs₀))
    (sameInputs : inputs.map Tensor.signature = inputs₀.map Tensor.signature)
    (sameOutputs : outputs.map Tensor.signature = outputs₀.map Tensor.signature)
    (usable : ∀ tensor ∈ inputs ++ outputs, tensor.Usable)
    (sized : ∀ tensor ∈ inputs ++ outputs, tensor.Sized) :
    operator.checkBound inputs outputs = .ok () := by
  unfold checkBound
  rw [bound]
  exact BoundTensors.check_of_signatures _ sameInputs.symm sameOutputs.symm usable sized

theorem prepare_operator [Host] (operator : Operator) (registry : Registry) (backend : Backend)
    (inputs outputs : List Tensor) (ledger : ShadowLedger) :
    ∃ binding, (operator.prepare registry backend inputs outputs ledger).operator =
      { operator with binding } := by
  unfold prepare
  split
  · exact ⟨operator.binding, rfl⟩
  · split
    · exact ⟨operator.binding, rfl⟩
    · split
      · exact ⟨operator.binding, rfl⟩
      · unfold refresh
        dsimp only
        split
        · exact ⟨_, rfl⟩
        · exact ⟨_, rfl⟩

theorem executed_cases (operator : Operator) :
    operator.executed = { operator with executions := operator.executions + 1 } ∨
      operator.executed = { operator with executions := operator.executions + 1 }.release := by
  unfold executed
  dsimp only
  split
  · exact .inl rfl
  · exact .inr rfl

theorem executed_operator (operator : Operator) :
    ∃ binding, operator.executed =
      { operator with binding, executions := operator.executions + 1 } := by
  rcases operator.executed_cases with lasting | once
  · exact ⟨operator.binding, lasting⟩
  · rw [once, release]
    split
    · exact ⟨_, rfl⟩
    · exact ⟨operator.binding, rfl⟩

theorem execute_operator [Host] (operator : Operator) (registry : Registry)
    (inputs outputs : List Tensor) (ledger : ShadowLedger) :
    ∃ binding executions, (operator.execute registry inputs outputs ledger).operator =
      { operator with binding, executions } := by
  cases outcome : (operator.execute registry inputs outputs ledger).outcome with
  | error fault =>
      rw [execute_operator_of_error outcome]
      exact ⟨operator.binding, operator.executions, rfl⟩
  | ok _ =>
      obtain ⟨binding, changed⟩ := operator.executed_operator
      rw [execute_operator_of_done outcome, changed]
      exact ⟨binding, _, rfl⟩

theorem executed_phase {operator : Operator} (executable : operator.binding.phase = .executable) :
    operator.executed.binding.phase = .executable ∨
      operator.executed.binding.phase = .released := by
  rcases operator.executed_cases with lasting | once
  · rw [lasting]
    exact .inl executable
  · rw [once, release]
    dsimp only
    rw [executable]
    exact .inr rfl

theorem reported_root {kernel : Kernel} {fault : Fault} {error : Error}
    (refused : reported kernel fault = .refused error) : error.SparesGraph := by
  unfold reported at refused
  split at refused <;> cases refused <;> simp [Error.SparesGraph, Error.root]

end Operator

namespace OperatorRun

variable {registry : Registry} {run : OperatorRun}

/-- A prepare that succeeds leaves an executable operator and is the latest in its history. -/
theorem Sound.prepare_done [Host] (sound : run.Sound registry) (reads : registry.HooksReadContents)
    {backend : Backend} {inputs outputs : List Tensor} {ledger : ShadowLedger}
    (usable : ∀ tensor ∈ inputs ++ outputs, tensor.Usable)
    (done : (run.operator.prepare registry backend inputs outputs ledger).outcome = .ok ()) :
    (OperatorRun.mk (run.operator.prepare registry backend inputs outputs ledger).operator
        (.prepared backend inputs outputs :: run.history)).Sound registry ∧
      (run.operator.prepare registry backend inputs outputs
        ledger).operator.binding.phase = .executable := by
  constructor
  · have kept : (run.perform registry (.prepare backend inputs outputs ledger)).Sound registry :=
      sound.prepare reads usable
    unfold OperatorRun.perform Operator.perform at kept
    dsimp only at kept
    rwa [done] at kept
  · cases reached : run.operator.reachesHook registry backend inputs outputs with
    | false =>
        obtain ⟨unchanged, kept⟩ := Operator.prepare_of_not_reached ledger reached
        obtain ⟨_, _, _, _, held⟩ := kept done
        rw [unchanged]
        unfold Binding.holds Binding.isExecutable at held
        rw [Bool.and_eq_true, beq_iff_eq] at held
        exact held.1
    | true =>
        obtain ⟨_, _, _, _, refreshed⟩ := Operator.prepare_of_reached ledger reached
        rw [refreshed] at done ⊢
        obtain ⟨_, _, operator⟩ := Operator.refresh_done done
        rw [operator]

theorem Sound.executed [Host] (sound : run.Sound registry) (inputs outputs : List Tensor)
    (ledger : ShadowLedger) :
    ∃ event, (OperatorRun.mk (run.operator.execute registry inputs outputs ledger).operator
        (event :: run.history)).Sound registry ∧
      OperatorEvent.lastPrepared? (event :: run.history) =
        OperatorEvent.lastPrepared? run.history := by
  have kept : (run.perform registry (.execute inputs outputs ledger)).Sound registry :=
    sound.execute
  unfold OperatorRun.perform Operator.perform at kept
  dsimp only at kept
  refine ⟨_, kept, ?_⟩
  split <;> rfl

theorem Sound.execute_fault [Host] (sound : run.Sound registry) {inputs outputs : List Tensor}
    {ledger : ShadowLedger} {error : Error}
    (executable : run.operator.binding.phase = .executable)
    (prepared : ∃ backend inputs₀ outputs₀,
      OperatorEvent.lastPrepared? run.history = some (backend, inputs₀, outputs₀) ∧
      inputs.map Tensor.signature = inputs₀.map Tensor.signature ∧
      outputs.map Tensor.signature = outputs₀.map Tensor.signature)
    (usable : ∀ tensor ∈ inputs ++ outputs, tensor.Usable)
    (sized : ∀ tensor ∈ inputs ++ outputs, tensor.Sized)
    (failed : (run.operator.execute registry inputs outputs ledger).outcome =
      .error (.refused error)) : error.SparesGraph := by
  obtain ⟨resolution, _, kernel, _, _, _, present, found, last, _, _, _, bound, _⟩ :=
    sound.executable executable
  obtain ⟨_, inputs₀, outputs₀, last₀, inputSignatures, outputSignatures⟩ := prepared
  rw [last₀] at last
  cases last
  rw [Operator.execute_eq executable present
    (Operator.checkBound_of_signatures bound inputSignatures outputSignatures usable sized)
    found] at failed
  obtain ⟨fault, _, same⟩ := mapError_eq_error.1 failed
  exact Operator.reported_root same

/-- A run that succeeds is one of the kernel that the latest prepare planned, on the planned path
and with the state that was derived then. -/
theorem Sound.execute_planned [Host] (sound : run.Sound registry) {backend : Backend}
    {inputs₀ outputs₀ inputs outputs : List Tensor} {ledger : ShadowLedger}
    (last : OperatorEvent.lastPrepared? run.history = some (backend, inputs₀, outputs₀))
    (done : (run.operator.execute registry inputs outputs ledger).outcome = .ok ()) :
    ∃ resolution requested kernel, run.operator.binding.resolution? = some resolution ∧
      registry.kernel? resolution.kernel = some kernel ∧ resolution.path = requested.path ∧
      run.operator.plan registry backend inputs₀ outputs₀ =
        .ok (requested, kernel, .capture kernel inputs₀ outputs₀) ∧
      (∀ ledger, (run.operator.derive kernel requested.path inputs₀ ledger).2 =
        .ok run.operator.binding.derived?) ∧
      let ran := run.operator.runKernel kernel requested.path run.operator.binding.derived? inputs
        outputs ledger
      ran.2.outcome = .ok () ∧
        (run.operator.execute registry inputs outputs ledger).outputs = ran.2.outputs := by
  obtain ⟨executable, _, resolution, kernel, present, found, ran, _, wrote⟩ :=
    Operator.execute_done done
  obtain ⟨_, requested, _, _, _, _, present', found', last', planned, _, samePath, _, _, derived,
    _⟩ := sound.executable executable
  cases present.symm.trans present'
  cases found.symm.trans found'
  cases last.symm.trans last'
  rw [samePath] at ran wrote derived
  exact ⟨resolution, requested, kernel, present, found, samePath, planned, derived, ran, wrote⟩

end OperatorRun

end TensorRuntime
