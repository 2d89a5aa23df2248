import Mathlib.Data.List.Induction
import TensorRuntime.Proofs.Operator.Lifecycle
import TensorRuntime.Proofs.Operator.Planning

/-!
What a binding holds in each phase, whatever the kernels and the tensors are. Once it is live, it
keeps its resolution to the next release.
-/

namespace TensorRuntime

open Attempt

/-- What goes with the phase of a binding. -/
structure Binding.Orderly (binding : Binding) : Prop where
  idle : binding.phase.isLive = false →
    binding.resolution? = none ∧ binding.derived? = none ∧ binding.bound? = none
  live : binding.phase.isLive = true → binding.resolution?.isSome = true
  prepared : binding.phase = .prepared → binding.derived? = none
  executable : binding.phase = .executable →
    ∃ bound output, binding.bound? = some bound ∧ bound.outputs = [output]

namespace Binding

variable {binding : Binding} {requested : Resolution}

theorem unbound_orderly : unbound.Orderly where
  idle _ := ⟨rfl, rfl, rfl⟩
  live impossible := by cases impossible
  prepared impossible := by cases impossible
  executable impossible := by cases impossible

theorem live_of_executable (executable : binding.phase = .executable) :
    binding.phase.isLive = true := by
  rw [executable]
  rfl

theorem not_live_of_idle (idle : binding.phase.isLive = false) : binding.phase.isLive ≠ true := by
  rw [idle]
  decide

theorem prepareFor_phase : (binding.prepareFor requested).phase = .prepared := by
  unfold prepareFor
  cases phase : binding.phase with
  | prepared => exact phase
  | executable | unbound | released => rfl

theorem Orderly.prepareFor_derived (orderly : binding.Orderly) :
    (binding.prepareFor requested).derived? = none := by
  unfold prepareFor
  cases phase : binding.phase with
  | prepared => exact orderly.prepared phase
  | executable | unbound | released => rfl

theorem prepareFor_resolution_of_live (live : binding.phase.isLive = true) :
    (binding.prepareFor requested).resolution? = binding.resolution? := by
  unfold prepareFor
  cases phase : binding.phase with
  | prepared | executable => rfl
  | unbound | released =>
      rw [phase] at live
      cases live

theorem prepareFor_resolution_of_idle (idle : binding.phase.isLive = false) :
    (binding.prepareFor requested).resolution? = some requested := by
  unfold prepareFor
  cases phase : binding.phase with
  | unbound | released => rfl
  | prepared | executable =>
      rw [phase] at idle
      cases idle

theorem Orderly.prepareFor_serves (orderly : binding.Orderly)
    (calm : binding.conflict? requested = none) :
    ∃ resolution, (binding.prepareFor requested).resolution? = some resolution ∧
      resolution.sameBinding requested = true := by
  cases live : binding.phase.isLive with
  | true =>
      obtain ⟨resolution, present⟩ := Option.isSome_iff_exists.1 (orderly.live live)
      exact ⟨resolution, (prepareFor_resolution_of_live live).trans present,
        Operator.sameBinding_of_conflict? calm live present⟩
  | false =>
      exact ⟨requested, prepareFor_resolution_of_idle live,
        Resolution.sameBinding_iff.2 ⟨rfl, rfl, rfl⟩⟩

end Binding

variable [Host]

namespace Operator

variable {operator : Operator} {registry : Registry}

/-- What a prepare can do to an operator: refuse the call, find the binding as it is asked for,
fail to derive state, or bind the tensors. -/
inductive PrepareStep (operator : Operator) (registry : Registry) (backend : Backend)
    (inputs outputs : List Tensor) : Operator → Attempt Unit → Prop
  | refused {fault : Fault}
      (early : operator.reachesHook registry backend inputs outputs = false) :
      PrepareStep operator registry backend inputs outputs operator (.error fault)
  | kept {requested : Resolution} {kernel : Kernel}
      (planned : operator.plan registry backend inputs outputs =
        .ok (requested, kernel, .capture kernel inputs outputs))
      (calm : operator.binding.conflict? requested = none)
      (held : operator.binding.holds (.capture kernel inputs outputs) = true) :
      PrepareStep operator registry backend inputs outputs operator (.ok ())
  | underived {requested : Resolution} {kernel : Kernel} {ledger : ShadowLedger} {fault : Fault}
      (planned : operator.plan registry backend inputs outputs =
        .ok (requested, kernel, .capture kernel inputs outputs))
      (calm : operator.binding.conflict? requested = none)
      (reached : operator.reachesHook registry backend inputs outputs = true)
      (failed : (operator.derive kernel requested.path inputs ledger).2 = .error fault) :
      PrepareStep operator registry backend inputs outputs
        { operator with binding := operator.binding.prepareFor requested } (.error fault)
  | bound {requested : Resolution} {kernel : Kernel} {derived? : Option Derived}
      (planned : operator.plan registry backend inputs outputs =
        .ok (requested, kernel, .capture kernel inputs outputs))
      (calm : operator.binding.conflict? requested = none) :
      PrepareStep operator registry backend inputs outputs
        { operator with binding :=
          { operator.binding.prepareFor requested with
            phase := .executable
            derived?
            bound? := some (.capture kernel inputs outputs) } } (.ok ())

theorem prepare_step (operator : Operator) (registry : Registry) (backend : Backend)
    (inputs outputs : List Tensor) (ledger : ShadowLedger) :
    operator.PrepareStep registry backend inputs outputs
      (operator.prepare registry backend inputs outputs ledger).operator
      (operator.prepare registry backend inputs outputs ledger).outcome := by
  cases reached : operator.reachesHook registry backend inputs outputs with
  | false =>
      obtain ⟨unchanged, kept⟩ := prepare_of_not_reached ledger reached
      rw [unchanged]
      cases outcome : (operator.prepare registry backend inputs outputs ledger).outcome with
      | error fault => exact .refused reached
      | ok _ =>
          obtain ⟨requested, kernel, planned, calm, held⟩ := kept outcome
          exact .kept planned calm held
  | true =>
      obtain ⟨requested, kernel, planned, calm, refreshed⟩ := prepare_of_reached ledger reached
      rw [refreshed]
      unfold refresh
      cases derivation : operator.derive kernel requested.path inputs ledger with
      | mk after outcome =>
          cases outcome with
          | error fault => exact .underived planned calm reached (congrArg Prod.snd derivation)
          | ok derived => exact .bound planned calm

theorem PrepareStep.orderly {backend : Backend} {inputs outputs : List Tensor} {after : Operator}
    {outcome : Attempt Unit} (orderly : operator.binding.Orderly)
    (step : operator.PrepareStep registry backend inputs outputs after outcome) :
    after.binding.Orderly := by
  cases step with
  | refused | kept => exact orderly
  | underived planned calm =>
      obtain ⟨resolution, present, _⟩ := orderly.prepareFor_serves calm
      refine ⟨fun idle => ?_, fun _ => ?_, fun _ => orderly.prepareFor_derived, fun ready => ?_⟩
      · exact absurd idle (by simp [Binding.prepareFor_phase, BindingState.isLive])
      · exact Option.isSome_iff_exists.2 ⟨resolution, present⟩
      · exact absurd ready (by simp [Binding.prepareFor_phase])
  | bound planned calm =>
      obtain ⟨resolution, present, _⟩ := orderly.prepareFor_serves calm
      obtain ⟨output, _, _, rfl, _⟩ := checkOutputs_eq_ok.1 (plan_eq_ok planned).1
      exact ⟨fun impossible => (by cases impossible),
        fun _ => Option.isSome_iff_exists.2 ⟨resolution, present⟩,
        fun impossible => (by cases impossible), fun _ => ⟨_, output.signature, rfl, rfl⟩⟩

theorem PrepareStep.keeps_resolution {backend : Backend} {inputs outputs : List Tensor}
    {after : Operator} {outcome : Attempt Unit} (live : operator.binding.phase.isLive = true)
    (step : operator.PrepareStep registry backend inputs outputs after outcome) :
    after.binding.phase.isLive = true ∧
      after.binding.resolution? = operator.binding.resolution? := by
  cases step with
  | refused | kept => exact ⟨live, rfl⟩
  | underived =>
      exact ⟨by rw [Binding.prepareFor_phase]; rfl, Binding.prepareFor_resolution_of_live live⟩
  | bound => exact ⟨rfl, Binding.prepareFor_resolution_of_live live⟩

omit [Host] in
theorem release_orderly (orderly : operator.binding.Orderly) :
    operator.release.binding.Orderly := by
  unfold release
  split
  · exact ⟨fun _ => ⟨rfl, rfl, rfl⟩, fun impossible => (by cases impossible),
      fun impossible => (by cases impossible), fun impossible => (by cases impossible)⟩
  · exact orderly

omit [Host] in
theorem release_idle (operator : Operator) :
    operator.release.binding.phase.isLive = false := by
  unfold release
  split
  · rfl
  · rename_i idle
    simpa using idle

theorem execute_binding (operator : Operator) (registry : Registry) (inputs outputs : List Tensor)
    (ledger : ShadowLedger) :
    (operator.execute registry inputs outputs ledger).operator.binding = operator.binding ∨
      (operator.execute registry inputs outputs ledger).outcome = .ok () ∧
        operator.lifetime = .oneShot ∧
        (operator.execute registry inputs outputs ledger).operator.binding =
          operator.release.binding := by
  cases outcome : (operator.execute registry inputs outputs ledger).outcome with
  | error fault =>
      rw [execute_operator_of_error outcome]
      exact .inl rfl
  | ok _ =>
      rw [execute_operator_of_done outcome]
      cases lifetime : operator.lifetime with
      | untilRelease =>
          rw [executed_untilRelease lifetime]
          exact .inl rfl
      | oneShot =>
          rw [executed_oneShot lifetime]
          refine .inr ⟨rfl, rfl, ?_⟩
          unfold release
          dsimp only
          split <;> rfl

theorem perform_orderly (orderly : operator.binding.Orderly) (call : OperatorCall) :
    (operator.perform registry call).1.binding.Orderly := by
  cases call with
  | prepare backend inputs outputs ledger =>
      exact (operator.prepare_step registry backend inputs outputs ledger).orderly orderly
  | execute inputs outputs ledger =>
      change (operator.execute registry inputs outputs ledger).operator.binding.Orderly
      obtain same | ⟨_, _, same⟩ := operator.execute_binding registry inputs outputs ledger
      · rwa [same]
      · rw [same]
        exact release_orderly orderly
  | release => exact release_orderly orderly

theorem perform_keeps_resolution (live : operator.binding.phase.isLive = true)
    {call : OperatorCall} (unreleased : (operator.perform registry call).2 ≠ .released) :
    (operator.perform registry call).1.binding.phase.isLive = true ∧
      (operator.perform registry call).1.binding.resolution? = operator.binding.resolution? := by
  cases call with
  | prepare backend inputs outputs ledger =>
      exact (operator.prepare_step registry backend inputs outputs ledger).keeps_resolution live
  | execute inputs outputs ledger =>
      obtain same | ⟨done, once, _⟩ := operator.execute_binding registry inputs outputs ledger
      · change (operator.execute registry inputs outputs ledger).operator.binding.phase.isLive =
          true ∧ (operator.execute registry inputs outputs ledger).operator.binding.resolution? =
            operator.binding.resolution?
        rw [same]
        exact ⟨live, rfl⟩
      · exact absurd (by simp [perform, done, once]) unreleased
  | release => exact absurd rfl unreleased

theorem perform_released_idle {call : OperatorCall}
    (released : (operator.perform registry call).2 = .released) :
    (operator.perform registry call).1.binding.phase.isLive = false := by
  cases call with
  | prepare backend inputs outputs ledger =>
      unfold perform at released
      dsimp only at released
      split at released
      · cases released
      · split at released <;> cases released
  | execute inputs outputs ledger =>
      cases outcome : (operator.execute registry inputs outputs ledger).outcome with
      | error fault => simp [perform, outcome] at released
      | ok _ =>
          cases lifetime : operator.lifetime with
          | untilRelease => simp [perform, outcome, lifetime] at released
          | oneShot =>
              have executed := execute_operator_of_done outcome
              change (operator.execute registry inputs outputs ledger).operator.binding.phase.isLive
                = false
              rw [executed, executed_oneShot lifetime]
              exact release_idle _
  | release => exact operator.release_idle

theorem perform_opens (idle : operator.binding.phase.isLive = false) {call : OperatorCall}
    (live : (operator.perform registry call).1.binding.phase.isLive = true) :
    ∃ backend inputs outputs ledger requested, call = .prepare backend inputs outputs ledger ∧
      registry.resolve operator.params inputs backend operator.allowFallback = .ok requested ∧
      (operator.perform registry call).1.binding.resolution? = some requested := by
  cases call with
  | prepare backend inputs outputs ledger =>
      have step := operator.prepare_step registry backend inputs outputs ledger
      unfold perform at live ⊢
      dsimp only at live ⊢
      generalize (operator.prepare registry backend inputs outputs ledger).operator = after,
        (operator.prepare registry backend inputs outputs ledger).outcome = outcome at step live
      refine ⟨backend, inputs, outputs, ledger, ?_⟩
      cases step with
      | refused | kept => exact absurd live (Binding.not_live_of_idle idle)
      | underived planned | bound planned =>
          exact ⟨_, rfl, (plan_eq_ok planned).2.1, Binding.prepareFor_resolution_of_idle idle⟩
  | execute inputs outputs ledger =>
      obtain same | ⟨_, _, same⟩ := operator.execute_binding registry inputs outputs ledger
      all_goals
        change (operator.execute registry inputs outputs ledger).operator.binding.phase.isLive =
          true at live
        rw [same] at live
      · exact absurd live (Binding.not_live_of_idle idle)
      · exact absurd live (Binding.not_live_of_idle operator.release_idle)
  | release => exact absurd live (Binding.not_live_of_idle operator.release_idle)

end Operator

namespace OperatorRun

variable {registry : Registry} {run : OperatorRun}

theorem performAll_concat (run : OperatorRun) (registry : Registry) (calls : List OperatorCall)
    (call : OperatorCall) :
    run.performAll registry (calls ++ [call]) = (run.performAll registry calls).perform registry
      call := List.foldl_concat ..

theorem performAll_orderly (orderly : run.operator.binding.Orderly) (calls : List OperatorCall) :
    (run.performAll registry calls).operator.binding.Orderly := by
  induction calls generalizing run with
  | nil => exact orderly
  | cons call rest ih =>
      exact @ih (run.perform registry call) (Operator.perform_orderly orderly call)

/-- Between two releases a live binding keeps its resolution. -/
theorem performAll_keeps_resolution (live : run.operator.binding.phase.isLive = true)
    (calls : List OperatorCall)
    (unreleased : .released ∉ (run.performAll registry calls).history) :
    (run.performAll registry calls).operator.binding.phase.isLive = true ∧
      (run.performAll registry calls).operator.binding.resolution? =
        run.operator.binding.resolution? := by
  induction calls using List.reverseRecOn with
  | nil => exact ⟨live, rfl⟩
  | append_singleton calls call ih =>
      rw [performAll_concat] at unreleased ⊢
      obtain ⟨last, before⟩ := not_or.1 (List.mem_cons.not.1 unreleased)
      obtain ⟨stillLive, same⟩ := ih before
      obtain ⟨liveAfter, sameAfter⟩ := Operator.perform_keeps_resolution stillLive (Ne.symm last)
      exact ⟨liveAfter, sameAfter.trans same⟩

end OperatorRun

end TensorRuntime
