import TensorRuntime.Proofs.Kernel.Hooks

/-!
What one call can do to an operator. A prepare keeps the operator, refreshes its
binding, or leaves the binding prepared when the hook fails; an execute either
changes nothing but the counter or ends in a release.
-/

namespace TensorRuntime

open Attempt

namespace Resolution

theorem sameBinding_iff {first second : Resolution} :
    first.sameBinding second = true ↔ first.backend = second.backend ∧
      first.kernel = second.kernel ∧ first.path = second.path := by
  simp [sameBinding, and_assoc]

end Resolution

namespace Operator

theorem plan_eq_ok {operator : Operator} {registry : Registry} {backend : Backend}
    {inputs outputs : List Tensor} {requested : Resolution} {kernel : Kernel}
    {bound : BoundTensors}
    (planned : operator.plan registry backend inputs outputs = .ok (requested, kernel, bound)) :
    operator.checkOutputs inputs outputs = .ok () ∧
      registry.resolve operator.params inputs backend operator.allowFallback = .ok requested ∧
      registry.kernel? requested.kernel = some kernel ∧
      bound = .capture kernel inputs outputs := by
  unfold plan at planned
  simp only [bind_eq_ok, lift_eq_ok] at planned
  obtain ⟨_, checked, resolution, resolved, found⟩ := planned
  split at found
  · cases found
  · rename_i entry present
    rw [pure_eq_ok] at found
    cases found
    exact ⟨checked, resolved, present, rfl⟩

theorem sameBinding_of_conflict? {binding : Binding} {requested resolution : Resolution}
    (calm : binding.conflict? requested = none) (live : binding.phase.isLive = true)
    (present : binding.resolution? = some resolution) :
    resolution.sameBinding requested = true := by
  unfold Binding.conflict? at calm
  rw [if_pos live, present] at calm
  by_cases same : resolution.sameBinding requested = true
  · exact same
  · simp [same] at calm

def reachesHook (operator : Operator) (registry : Registry) (backend : Backend)
    (inputs outputs : List Tensor) : Bool :=
  match operator.plan registry backend inputs outputs with
  | .error _ => false
  | .ok (requested, _, bound) =>
      (operator.binding.conflict? requested).isNone && !operator.binding.holds bound

variable [Host]

section Prepare

variable {operator : Operator} {registry : Registry} {backend : Backend}
  {inputs outputs : List Tensor} (ledger : ShadowLedger)

theorem prepare_of_not_reached
    (early : operator.reachesHook registry backend inputs outputs = false) :
    (operator.prepare registry backend inputs outputs ledger).operator = operator ∧
      ((operator.prepare registry backend inputs outputs ledger).outcome = .ok () →
        ∃ requested kernel,
          operator.plan registry backend inputs outputs =
            .ok (requested, kernel, .capture kernel inputs outputs) ∧
          operator.binding.conflict? requested = none ∧
          operator.binding.holds (.capture kernel inputs outputs) = true) := by
  unfold prepare
  unfold reachesHook at early
  cases planned : operator.plan registry backend inputs outputs with
  | error fault => exact ⟨rfl, fun impossible => by cases impossible⟩
  | ok plan =>
      obtain ⟨requested, kernel, bound⟩ := plan
      obtain ⟨_, _, _, rfl⟩ := plan_eq_ok planned
      rw [planned] at early
      dsimp only at early ⊢
      cases calm : operator.binding.conflict? requested with
      | some current => exact ⟨rfl, fun impossible => by cases impossible⟩
      | none =>
          rw [calm] at early
          have held : operator.binding.holds (.capture kernel inputs outputs) = true := by
            simpa using early
          dsimp only
          rw [if_pos held]
          exact ⟨rfl, fun _ => ⟨requested, kernel, rfl, calm, held⟩⟩

theorem prepare_of_reached
    (reached : operator.reachesHook registry backend inputs outputs = true) :
    ∃ requested kernel,
      operator.plan registry backend inputs outputs =
        .ok (requested, kernel, .capture kernel inputs outputs) ∧
      operator.binding.conflict? requested = none ∧
      operator.prepare registry backend inputs outputs ledger =
        operator.refresh kernel requested (.capture kernel inputs outputs) inputs ledger := by
  unfold reachesHook at reached
  unfold prepare
  cases planned : operator.plan registry backend inputs outputs with
  | error fault => simp [planned] at reached
  | ok plan =>
      obtain ⟨requested, kernel, bound⟩ := plan
      obtain ⟨_, _, _, rfl⟩ := plan_eq_ok planned
      rw [planned] at reached
      simp only [Bool.and_eq_true, Option.isNone_iff_eq_none, Bool.not_eq_true'] at reached
      refine ⟨requested, kernel, rfl, reached.1, ?_⟩
      simp [reached.1, reached.2]

end Prepare

section Refresh

variable {operator : Operator} {kernel : Kernel} {requested : Resolution} {bound : BoundTensors}
  {inputs : List Tensor} {ledger : ShadowLedger}

theorem refresh_failed
    (failed : (operator.refresh kernel requested bound inputs ledger).outcome ≠ .ok ()) :
    (operator.refresh kernel requested bound inputs ledger).operator =
      { operator with binding := operator.binding.prepareFor requested } := by
  unfold refresh at failed ⊢
  cases hooked : operator.derive kernel requested.path inputs ledger with
  | mk _ outcome =>
      rw [hooked] at failed
      cases outcome with
      | error fault => rfl
      | ok derived => exact absurd rfl failed

theorem refresh_done
    (done : (operator.refresh kernel requested bound inputs ledger).outcome = .ok ()) :
    ∃ derived, (operator.derive kernel requested.path inputs ledger).2 = .ok derived ∧
      (operator.refresh kernel requested bound inputs ledger).operator =
        { operator with binding :=
          { operator.binding.prepareFor requested with
            phase := .executable
            derived? := if kernel.hasPrecompute then derived
              else (operator.binding.prepareFor requested).derived?
            bound? := some bound } } := by
  unfold refresh at done ⊢
  cases hooked : operator.derive kernel requested.path inputs ledger with
  | mk _ outcome =>
      rw [hooked] at done
      cases outcome with
      | error fault => cases done
      | ok derived => exact ⟨derived, rfl, rfl⟩

end Refresh

omit [Host] in
theorem executed_untilRelease {operator : Operator} (lasting : operator.lifetime = .untilRelease) :
    operator.executed = { operator with executions := operator.executions + 1 } := by
  unfold executed
  dsimp only
  rw [lasting]

omit [Host] in
theorem executed_oneShot {operator : Operator} (once : operator.lifetime = .oneShot) :
    operator.executed = { operator with executions := operator.executions + 1 }.release := by
  unfold executed
  dsimp only
  rw [once]

section Execute

variable {operator : Operator} {registry : Registry} {inputs outputs : List Tensor}
  {ledger : ShadowLedger}

theorem execute_mismatched {resolution : Resolution} {error : Error}
    (executable : operator.binding.phase = .executable)
    (present : operator.binding.resolution? = some resolution)
    (mismatched : operator.checkBound inputs outputs = .error error) :
    operator.execute registry inputs outputs ledger =
      ⟨operator, outputs, ledger, Attempt.refuse error⟩ := by
  unfold execute
  rw [executable, present]
  dsimp only
  rw [mismatched]

theorem execute_eq {resolution : Resolution} {kernel : Kernel}
    (executable : operator.binding.phase = .executable)
    (present : operator.binding.resolution? = some resolution)
    (checked : operator.checkBound inputs outputs = .ok ())
    (found : registry.kernel? resolution.kernel = some kernel) :
    let ran := operator.runKernel kernel resolution.path operator.binding.derived? inputs outputs
      ledger
    operator.execute registry inputs outputs ledger =
      ⟨if ran.2.outcome.toBool then operator.executed else operator, ran.2.outputs, ran.1,
        ran.2.outcome.mapError (reported kernel)⟩ := by
  unfold execute
  rw [executable, present]
  dsimp only
  rw [checked]
  dsimp only
  rw [found]
  dsimp only
  cases (operator.runKernel kernel resolution.path operator.binding.derived? inputs outputs
    ledger).2.outcome <;> rfl

/-- An execute is refused before any kernel runs, and then changes nothing, or it runs the kernel
that the operator is bound to. -/
theorem execute_cases (operator : Operator) (registry : Registry) (inputs outputs : List Tensor)
    (ledger : ShadowLedger) :
    (∃ error, operator.execute registry inputs outputs ledger =
      ⟨operator, outputs, ledger, Attempt.refuse error⟩) ∨
    ∃ resolution kernel, operator.binding.phase = .executable ∧
      operator.binding.resolution? = some resolution ∧
      operator.checkBound inputs outputs = .ok () ∧
      registry.kernel? resolution.kernel = some kernel := by
  by_cases executable : operator.binding.phase = .executable
  · cases present : operator.binding.resolution? with
    | none =>
        refine .inl ⟨.kernelUnbound operator.name BindingState.executable.name, ?_⟩
        unfold execute
        rw [executable, present]
    | some resolution =>
        cases checked : operator.checkBound inputs outputs with
        | error error => exact .inl ⟨error, execute_mismatched executable present checked⟩
        | ok _ =>
            cases found : registry.kernel? resolution.kernel with
            | none =>
                refine .inl ⟨missingKernel resolution.kernel, ?_⟩
                unfold execute
                rw [executable, present]
                dsimp only
                rw [checked, found]
            | some kernel => exact .inr ⟨resolution, kernel, executable, rfl, rfl, found⟩
  · refine .inl ⟨.kernelUnbound operator.name operator.binding.phase.name, ?_⟩
    unfold execute
    split
    · exact absurd ‹_› executable
    · rfl

theorem execute_bound {resolution : Resolution} {kernel : Kernel}
    (executable : operator.binding.phase = .executable)
    (present : operator.binding.resolution? = some resolution)
    (checked : operator.checkBound inputs outputs = .ok ())
    (found : registry.kernel? resolution.kernel = some kernel) :
    let ran := operator.runKernel kernel resolution.path operator.binding.derived? inputs outputs
      ledger
    (operator.execute registry inputs outputs ledger).outcome =
        ran.2.outcome.mapError (reported kernel) ∧
      (operator.execute registry inputs outputs ledger).outputs = ran.2.outputs := by
  rw [execute_eq executable present checked found]
  exact ⟨rfl, rfl⟩

theorem execute_failed
    (failed : (operator.execute registry inputs outputs ledger).outcome ≠ .ok ()) :
    (operator.execute registry inputs outputs ledger).operator = operator := by
  obtain ⟨_, refused⟩ | ⟨_, _, executable, present, checked, found⟩ :=
    operator.execute_cases registry inputs outputs ledger
  · rw [refused]
  · rw [execute_eq executable present checked found] at failed ⊢
    exact if_neg fun succeeded => failed (mapError_eq_ok.2 (eq_ok_of_toBool succeeded))

theorem execute_operator_of_error {fault : Fault}
    (failed : (operator.execute registry inputs outputs ledger).outcome = .error fault) :
    (operator.execute registry inputs outputs ledger).operator = operator :=
  execute_failed (by rw [failed]; nofun)

theorem execute_done
    (done : (operator.execute registry inputs outputs ledger).outcome = .ok ()) :
    operator.binding.phase = .executable ∧
      operator.checkBound inputs outputs = .ok () ∧
      ∃ resolution kernel, operator.binding.resolution? = some resolution ∧
        registry.kernel? resolution.kernel = some kernel ∧
        (operator.runKernel kernel resolution.path operator.binding.derived? inputs outputs
          ledger).2.outcome = .ok () ∧
        (operator.execute registry inputs outputs ledger).operator = operator.executed ∧
        (operator.execute registry inputs outputs ledger).outputs =
          (operator.runKernel kernel resolution.path operator.binding.derived? inputs outputs
            ledger).2.outputs := by
  obtain ⟨_, refused⟩ | ⟨resolution, kernel, executable, present, checked, found⟩ :=
    operator.execute_cases registry inputs outputs ledger
  · rw [refused] at done
    cases done
  · refine ⟨executable, checked, resolution, kernel, present, found, ?_⟩
    rw [execute_eq executable present checked found] at done ⊢
    have ran := mapError_eq_ok.1 done
    exact ⟨ran, by rw [ran]; rfl, rfl⟩

theorem execute_operator_of_done
    (done : (operator.execute registry inputs outputs ledger).outcome = .ok ()) :
    (operator.execute registry inputs outputs ledger).operator = operator.executed := by
  obtain ⟨_, _, _, _, _, _, _, executed, _⟩ := execute_done done
  exact executed

end Execute

end Operator

end TensorRuntime
