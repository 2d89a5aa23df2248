import TensorRuntime.Proofs.Dispatch
import TensorRuntime.Proofs.Operator.Holding
import TensorRuntime.Proofs.Operator.Safety

/-!
Which resolution an operator holds. A binding takes the resolution of the prepare that brought it
to life, and a later prepare that is served by the same kernel leaves it there; such a prepare
agrees with it in everything but the layout.
-/

namespace TensorRuntime

open Attempt

namespace Resolution

theorem eq_of_sameBinding {registry : Registry} {params params' : Params}
    {inputs inputs' : List Tensor} {backend backend' : Backend}
    {allowFallback allowFallback' : Bool} {resolution requested : Resolution}
    (resolved : registry.resolve params inputs backend allowFallback = .ok resolution)
    (resolved' : registry.resolve params' inputs' backend' allowFallback' = .ok requested)
    (same : resolution.sameBinding requested = true) :
    resolution = { requested with layout := resolution.layout } := by
  obtain ⟨backends, kernels, paths⟩ := sameBinding_iff.1 same
  have keys := Registry.key_of_resolve resolved
  rw [kernels, Registry.key_of_resolve resolved'] at keys
  simp only [Option.some.injEq, KernelKey.mk.injEq] at keys
  obtain ⟨ops, elementTypes, _⟩ := keys
  cases resolution
  cases requested
  simp_all

end Resolution

section

variable [Host]

namespace OperatorRun

variable {registry : Registry} {run : OperatorRun} {calls : List OperatorCall}

/-- Among some calls, the prepare that brought the binding to the life that it still has: the
binding was idle before it and live after it and after every later call. -/
def OpenedBy (run : OperatorRun) (registry : Registry) (calls : List OperatorCall)
    (backend : Backend) (inputs : List Tensor) : Prop :=
  ∃ before outputs ledger after,
    calls = before ++ .prepare backend inputs outputs ledger :: after ∧
      (run.performAll registry before).operator.binding.phase.isLive = false ∧
      ∀ later, later <+: after →
        (run.performAll registry (before ++ .prepare backend inputs outputs ledger ::
          later)).operator.binding.phase.isLive = true

theorem OpenedBy.now {backend : Backend} {inputs outputs : List Tensor} {ledger : ShadowLedger}
    (idle : (run.performAll registry calls).operator.binding.phase.isLive = false)
    (live : (run.performAll registry (calls ++ [.prepare backend inputs outputs
      ledger])).operator.binding.phase.isLive = true) :
    run.OpenedBy registry (calls ++ [.prepare backend inputs outputs ledger]) backend inputs := by
  refine ⟨calls, outputs, ledger, [], rfl, idle, fun later within => ?_⟩
  rwa [List.prefix_nil.1 within]

theorem OpenedBy.later {backend : Backend} {inputs : List Tensor}
    (opened : run.OpenedBy registry calls backend inputs) {call : OperatorCall}
    (live : (run.performAll registry (calls ++ [call])).operator.binding.phase.isLive = true) :
    run.OpenedBy registry (calls ++ [call]) backend inputs := by
  obtain ⟨before, outputs, ledger, after, rfl, idle, kept⟩ := opened
  refine ⟨before, outputs, ledger, after ++ [call], by simp, idle, fun later within => ?_⟩
  rcases List.prefix_concat_iff.1 within with rfl | earlier
  · simpa using live
  · exact kept later earlier

/-- Where the resolution that an operator holds comes from. -/
structure Tracked (run : OperatorRun) (registry : Registry) (calls : List OperatorCall) :
    Prop where
  live : (run.performAll registry calls).operator.binding.phase.isLive = true →
    ∃ resolution backend inputs,
      (run.performAll registry calls).operator.binding.resolution? = some resolution ∧
        run.OpenedBy registry calls backend inputs ∧
        registry.resolve run.operator.params inputs backend run.operator.allowFallback =
          .ok resolution
  executable : (run.performAll registry calls).operator.binding.phase = .executable →
    ∃ resolution requested backend inputs outputs,
      (run.performAll registry calls).operator.binding.resolution? = some resolution ∧
        OperatorEvent.lastPrepared? (run.performAll registry calls).history =
          some (backend, inputs, outputs) ∧
        registry.resolve run.operator.params inputs backend run.operator.allowFallback =
          .ok requested ∧
        resolution.sameBinding requested = true

theorem Tracked.start (idle : run.operator.binding.phase.isLive = false) :
    run.Tracked registry [] where
  live live := absurd live (Binding.not_live_of_idle idle)
  executable executable :=
    absurd (Binding.live_of_executable executable) (Binding.not_live_of_idle idle)

section Step

variable {call : OperatorCall}

theorem resolve_performAll (backend : Backend) (inputs : List Tensor) :
    registry.resolve (run.performAll registry calls).operator.params inputs backend
        (run.performAll registry calls).operator.allowFallback =
      registry.resolve run.operator.params inputs backend run.operator.allowFallback := by
  have settings := run.performAll_renewed registry calls
  simp only [Operator.renewed, Operator.create, Operator.mk.injEq] at settings
  rw [settings.2.1, settings.2.2.2.2.1]

variable (tracked : run.Tracked registry calls)

include tracked

theorem Tracked.live_concat
    (live : (run.performAll registry (calls ++ [call])).operator.binding.phase.isLive = true) :
    ∃ resolution backend inputs,
      (run.performAll registry (calls ++ [call])).operator.binding.resolution? =
          some resolution ∧
        run.OpenedBy registry (calls ++ [call]) backend inputs ∧
        registry.resolve run.operator.params inputs backend run.operator.allowFallback =
          .ok resolution := by
  have live' := live
  rw [performAll_concat] at live' ⊢
  cases before : (run.performAll registry calls).operator.binding.phase.isLive with
  | true =>
      obtain ⟨resolution, backend, inputs, present, opened, resolved⟩ := tracked.live before
      have unreleased : ((run.performAll registry calls).operator.perform registry call).2 ≠
          .released := fun released =>
        Binding.not_live_of_idle (Operator.perform_released_idle released) live'
      refine ⟨resolution, backend, inputs, ?_, opened.later live, resolved⟩
      exact (Operator.perform_keeps_resolution before unreleased).2.trans present
  | false =>
      obtain ⟨backend, inputs, outputs, ledger, requested, rfl, resolved, present⟩ :=
        Operator.perform_opens before live'
      rw [resolve_performAll] at resolved
      exact ⟨requested, backend, inputs, present, .now before live, resolved⟩

theorem Tracked.executable_prepare (orderly : run.operator.binding.Orderly) {backend : Backend}
    {inputs outputs : List Tensor} {ledger : ShadowLedger}
    (executable : ((run.performAll registry calls).perform registry
      (.prepare backend inputs outputs ledger)).operator.binding.phase = .executable) :
    ∃ resolution requested backend₀ inputs₀ outputs₀,
      ((run.performAll registry calls).perform registry
          (.prepare backend inputs outputs ledger)).operator.binding.resolution? =
          some resolution ∧
        OperatorEvent.lastPrepared? ((run.performAll registry calls).perform registry
          (.prepare backend inputs outputs ledger)).history = some (backend₀, inputs₀, outputs₀) ∧
        registry.resolve run.operator.params inputs₀ backend₀ run.operator.allowFallback =
          .ok requested ∧
        resolution.sameBinding requested = true := by
  have inOrder : (run.performAll registry calls).operator.binding.Orderly :=
    performAll_orderly orderly calls
  have step := (run.performAll registry calls).operator.prepare_step registry backend inputs
    outputs ledger
  unfold perform Operator.perform at executable ⊢
  dsimp only at executable ⊢
  generalize ((run.performAll registry calls).operator.prepare registry backend inputs outputs
      ledger).operator = after,
    ((run.performAll registry calls).operator.prepare registry backend inputs outputs
      ledger).outcome = outcome at step executable
  cases step with
  | refused early =>
      rw [early]
      exact tracked.executable executable
  | kept planned calm =>
      obtain ⟨resolution, _, _, _, _, present, _⟩ := tracked.executable executable
      have same := Operator.sameBinding_of_conflict? calm
        (Binding.live_of_executable executable) present
      refine ⟨resolution, _, backend, inputs, outputs, present, rfl, ?_, same⟩
      rw [← resolve_performAll]
      exact (Operator.plan_eq_ok planned).2.1
  | underived => exact absurd executable (by simp [Binding.prepareFor_phase])
  | bound planned calm =>
      obtain ⟨resolution, present, same⟩ := inOrder.prepareFor_serves calm
      refine ⟨resolution, _, backend, inputs, outputs, present, rfl, ?_, same⟩
      rw [← resolve_performAll]
      exact (Operator.plan_eq_ok planned).2.1

theorem Tracked.executable_concat (orderly : run.operator.binding.Orderly)
    (executable : (run.performAll registry (calls ++ [call])).operator.binding.phase =
      .executable) :
    ∃ resolution requested backend inputs outputs,
      (run.performAll registry (calls ++ [call])).operator.binding.resolution? =
          some resolution ∧
        OperatorEvent.lastPrepared? (run.performAll registry (calls ++ [call])).history =
          some (backend, inputs, outputs) ∧
        registry.resolve run.operator.params inputs backend run.operator.allowFallback =
          .ok requested ∧
        resolution.sameBinding requested = true := by
  rw [performAll_concat] at executable ⊢
  cases call with
  | prepare backend inputs outputs ledger => exact tracked.executable_prepare orderly executable
  | execute inputs outputs ledger =>
      obtain same | ⟨_, _, same⟩ :=
        (run.performAll registry calls).operator.execute_binding registry inputs outputs ledger
      all_goals
        change ((run.performAll registry calls).operator.execute registry inputs outputs
          ledger).operator.binding.phase = .executable at executable
        rw [same] at executable
      · obtain ⟨resolution, requested, backend, inputs₀, outputs₀, present, last, rest⟩ :=
          tracked.executable executable
        refine ⟨resolution, requested, backend, inputs₀, outputs₀, ?_, ?_, rest⟩
        · change ((run.performAll registry calls).operator.execute registry inputs outputs
            ledger).operator.binding.resolution? = some resolution
          rwa [same]
        · have quiet : ∀ call ∈ [OperatorCall.execute inputs outputs ledger],
              call.isPrepare = false := by simp [OperatorCall.isPrepare]
          exact (lastPrepared?_performAll quiet _).trans last
      · exact absurd (Binding.live_of_executable executable)
          (Binding.not_live_of_idle (Operator.release_idle _))
  | release =>
      exact absurd (Binding.live_of_executable executable)
        (Binding.not_live_of_idle (Operator.release_idle _))

end Step

theorem performAll_tracked (fresh : run.operator.binding = .unbound) (calls : List OperatorCall) :
    run.Tracked registry calls := by
  induction calls using List.reverseRecOn with
  | nil => exact .start (by rw [fresh]; rfl)
  | append_singleton calls call ih =>
      exact ⟨ih.live_concat, ih.executable_concat (by rw [fresh]; exact Binding.unbound_orderly)⟩

end OperatorRun

namespace Operator

/-- An executable operator holds the resolution of the prepare that brought its binding to life. It
is the one that the latest prepare asked for in all but the layout, and in the layout too exactly
where the first inputs of the two ask for the same. -/
theorem holds_resolution_of_opening (registry : Registry) (name : String) (params : Params)
    (lifetime : StateLifetime) (allowFallback : Bool) (calls : List OperatorCall) :
    let fresh := OperatorRun.start (create name params lifetime allowFallback)
    let run := fresh.performAll registry calls
    run.operator.binding.phase = .executable →
      ∃ resolution requested backend opening inputs outputs,
        run.operator.binding.resolution? = some resolution ∧
          fresh.OpenedBy registry calls backend opening ∧
          registry.resolve params opening backend allowFallback = .ok resolution ∧
          OperatorEvent.lastPrepared? run.history = some (backend, inputs, outputs) ∧
          registry.resolve params inputs backend allowFallback = .ok requested ∧
          resolution = { requested with layout := resolution.layout } ∧
          (resolution = requested ↔
            opening.head?.map requestedLayout = inputs.head?.map requestedLayout) := by
  intro fresh run executable
  have tracked : fresh.Tracked registry calls := OperatorRun.performAll_tracked rfl calls
  obtain ⟨resolution, opened, opening, present, openedBy, resolved⟩ :=
    tracked.live (Binding.live_of_executable executable)
  obtain ⟨held, requested, backend, inputs, outputs, present', last, resolved', same⟩ :=
    tracked.executable executable
  cases present.symm.trans present'
  have backends := (Resolution.sameBinding_iff.1 same).1
  have alike := Resolution.eq_of_sameBinding resolved resolved' same
  obtain ⟨first, _, _, _, _, _, _, given, _, _, _, own⟩ := Registry.resolve_eq_ok_iff.1 resolved
  obtain ⟨first', _, _, _, _, _, _, given', _, _, _, own'⟩ :=
    Registry.resolve_eq_ok_iff.1 resolved'
  obtain rfl : opened = backend := by rw [own, own'] at backends; exact backends
  refine ⟨resolution, requested, opened, opening, inputs, outputs, present, openedBy, resolved,
    last, resolved', alike, ?_⟩
  have layout : resolution.layout = requestedLayout first := by rw [own]
  have layout' : requested.layout = requestedLayout first' := by rw [own']
  rw [given, given', List.head?_cons, List.head?_cons, Option.map_some, Option.map_some,
    Option.some.injEq, ← layout, ← layout']
  constructor
  · rintro rfl
    rfl
  · intro layouts
    rw [alike, layouts]

end Operator

end

namespace Operator

def zeroPixel (name : String) (layout : Layout) : Tensor :=
  ⟨name, ⟨[1, 1, 1, 1]⟩, layout, none, .external, .f32 #[0]⟩

def retagCalls : List OperatorCall :=
  [.prepare .reference [zeroPixel "x" .nchw] [zeroPixel "y" .nchw] .empty,
    .prepare .reference [zeroPixel "x" .nhwc] [zeroPixel "y" .nhwc] .empty]

theorem retagged_relu_holds_first_resolution :
    let fresh := OperatorRun.start (create "relu" (.activation .relu) .untilRelease true)
    let run := fresh.performAll Registry.default retagCalls
    run.operator.binding.phase = .executable ∧
      ∃ resolution backend opening, run.operator.binding.resolution? = some resolution ∧
        fresh.OpenedBy Registry.default retagCalls backend opening ∧
        Registry.default.resolve (.activation .relu) opening backend true = .ok resolution := by
  intro fresh run
  have executable : run.operator.binding.phase = .executable := by
    simp only [run, Registry.default_eq]
    decide +kernel
  obtain ⟨resolution, _, backend, opening, _, _, present, opened, resolved, _⟩ :=
    holds_resolution_of_opening Registry.default "relu" (.activation .relu) .untilRelease true
      retagCalls executable
  exact ⟨executable, resolution, backend, opening, present, opened, resolved⟩

/-- An operator that is prepared again on a tensor with another tag still holds the layout of the
first one. -/
theorem retagged_relu_holds_old_layout :
    let fresh := create "relu" (.activation .relu) .untilRelease true
    let prepared := fresh.prepare Registry.default .reference [zeroPixel "x" .nchw]
      [zeroPixel "y" .nchw] .empty
    let again := prepared.operator.prepare Registry.default .reference [zeroPixel "x" .nhwc]
      [zeroPixel "y" .nhwc] .empty
    again.outcome = .ok () ∧ again.operator.binding.phase = .executable ∧
      ∃ requested, Registry.default.resolve (.activation .relu) [zeroPixel "x" .nhwc] .reference
          true = .ok requested ∧ requested.layout = .nhwc ∧
        again.operator.binding.resolution? = some { requested with layout := .nchw } ∧
        again.operator.binding.resolution? ≠ some requested := by
  intro fresh prepared again
  have done : again.outcome = .ok () := by
    simp only [again, prepared, Registry.default_eq]
    exact eq_ok_of_toBool (by decide +kernel)
  have executable : again.operator.binding.phase = .executable := by
    simp only [again, prepared, Registry.default_eq]
    decide +kernel
  have held : again.operator.binding.resolution? =
      some ⟨.relu, ⟨26⟩, .native, .reference, .nchw, .f32⟩ := by
    simp only [again, prepared, Registry.default_eq]
    decide +kernel
  have resolved : (Registry.default.resolve (.activation .relu) [zeroPixel "x" .nhwc] .reference
      true).toOption = some ⟨.relu, ⟨26⟩, .native, .reference, .nhwc, .f32⟩ := by
    simp only [Registry.default_eq]
    decide +kernel
  refine ⟨done, executable, _, toOption_eq_some.1 resolved, rfl, held, ?_⟩
  rw [held]
  decide

end Operator

end TensorRuntime
