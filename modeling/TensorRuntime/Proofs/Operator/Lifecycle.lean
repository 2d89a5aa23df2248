import TensorRuntime.Proofs.Operator.Steps

/-!
The life of an operator under any sequence of calls. The calls leave a history, and
what the operator holds is what the latest successful prepare of that history
bound and derived.
-/

namespace TensorRuntime

open Attempt

inductive OperatorCall where
  | prepare (backend : Backend) (inputs outputs : List Tensor) (ledger : ShadowLedger)
  | execute (inputs outputs : List Tensor) (ledger : ShadowLedger)
  | release

/-- What a call did. A release is noted whether it was asked for or came with a one-shot run. -/
inductive OperatorEvent where
  | prepared (backend : Backend) (inputs outputs : List Tensor)
  | hookFailed
  | ran
  | released
  | refused

def OperatorCall.Usable : OperatorCall → Prop
  | prepare _ inputs outputs _ => ∀ tensor ∈ inputs ++ outputs, tensor.Usable
  | execute .. | release => True

/-- An operator with what happened to it, the latest first. -/
structure OperatorRun where
  operator : Operator
  history : List OperatorEvent

namespace OperatorEvent

def lastPrepared? : List OperatorEvent → Option (Backend × List Tensor × List Tensor)
  | [] => none
  | prepared backend inputs outputs :: _ => some (backend, inputs, outputs)
  | _ :: earlier => lastPrepared? earlier

/-- Since the last release a prepare succeeded, and after it no hook failed. -/
def Armed (history : List OperatorEvent) : Prop :=
  ∃ recent backend inputs outputs earlier,
    history = recent ++ prepared backend inputs outputs :: earlier ∧
      hookFailed ∉ recent ∧ released ∉ recent

theorem armed_prepared (backend : Backend) (inputs outputs : List Tensor)
    (earlier : List OperatorEvent) : Armed (prepared backend inputs outputs :: earlier) :=
  ⟨[], backend, inputs, outputs, earlier, rfl, by simp, by simp⟩

theorem Armed.later {event : OperatorEvent} {history : List OperatorEvent}
    (armed : Armed history) (quiet : event = ran ∨ event = refused) : Armed (event :: history) := by
  obtain ⟨recent, backend, inputs, outputs, earlier, rfl, noFailure, noRelease⟩ := armed
  have calm : event ≠ hookFailed ∧ event ≠ released := by
    rcases quiet with rfl | rfl <;> simp
  exact ⟨event :: recent, backend, inputs, outputs, earlier, rfl,
    by simp [noFailure, calm.1.symm], by simp [noRelease, calm.2.symm]⟩

end OperatorEvent

section

variable [Host]

namespace Operator

def perform (operator : Operator) (registry : Registry) : OperatorCall → Operator × OperatorEvent
  | .prepare backend inputs outputs ledger =>
      let result := operator.prepare registry backend inputs outputs ledger
      (result.operator, match result.outcome with
        | .ok () => .prepared backend inputs outputs
        | .error _ =>
            if operator.reachesHook registry backend inputs outputs then .hookFailed
            else .refused)
  | .execute inputs outputs ledger =>
      let result := operator.execute registry inputs outputs ledger
      (result.operator, match result.outcome, operator.lifetime with
        | .ok (), .untilRelease => .ran
        | .ok (), .oneShot => .released
        | .error _, _ => .refused)
  | .release => (operator.release, .released)

end Operator

namespace BoundTensors

omit [Host] in
theorem eq_of_sameSignatures {first second : List Signature}
    (firstUsable : ∀ signature ∈ first, Quantization.UsableOption signature.quantization)
    (secondUsable : ∀ signature ∈ second, Quantization.UsableOption signature.quantization)
    (same : sameSignatures first second = true) : first = second := by
  induction first generalizing second with
  | nil =>
      cases second with
      | nil => rfl
      | cons => cases same
  | cons signature rest ih =>
      cases second with
      | nil => cases same
      | cons signature' rest' =>
          simp only [sameSignatures, Bool.and_eq_true] at same
          rw [Signature.eq_of_same (firstUsable _ (by simp)) (secondUsable _ (by simp)) same.1,
            ih (fun _ member => firstUsable _ (by simp [member]))
              (fun _ member => secondUsable _ (by simp [member])) same.2]

omit [Host] in
theorem capture_of_same {kernel : Kernel} {inputs outputs inputs' outputs' : List Tensor}
    (usable : ∀ tensor ∈ inputs ++ outputs, tensor.Usable)
    (usable' : ∀ tensor ∈ inputs' ++ outputs', tensor.Usable)
    (same : (capture kernel inputs outputs).same (capture kernel inputs' outputs') = true) :
    capture kernel inputs outputs = capture kernel inputs' outputs' ∧
      (kernel.hasPrecompute = true → SameContents inputs inputs') := by
  have signatures : ∀ {tensors : List Tensor}, (∀ tensor ∈ tensors, tensor.Usable) →
      ∀ signature ∈ tensors.map Tensor.signature,
        Quantization.UsableOption signature.quantization := by
    intro tensors every signature member
    obtain ⟨tensor, inside, rfl⟩ := List.mem_map.1 member
    exact every tensor inside
  simp only [BoundTensors.same, Bool.and_eq_true, beq_iff_eq] at same
  obtain ⟨⟨sameInputs, sameOutputs⟩, sameContents⟩ := same
  have inputsAgree := eq_of_sameSignatures
    (signatures fun tensor member => usable tensor (by simp [member]))
    (signatures fun tensor member => usable' tensor (by simp [member])) sameInputs
  have outputsAgree := eq_of_sameSignatures
    (signatures fun tensor member => usable tensor (by simp [member]))
    (signatures fun tensor member => usable' tensor (by simp [member])) sameOutputs
  refine ⟨?_, fun hook => ?_⟩
  · unfold capture at *
    rw [BoundTensors.mk.injEq]
    exact ⟨inputsAgree, outputsAgree, sameContents⟩
  · simp only [capture, hook, if_true] at sameContents
    exact .of_bytes inputsAgree sameContents

end BoundTensors

namespace OperatorRun

def start (operator : Operator) : OperatorRun := ⟨operator, []⟩

def perform (run : OperatorRun) (registry : Registry) (call : OperatorCall) : OperatorRun :=
  let (operator, event) := run.operator.perform registry call
  ⟨operator, event :: run.history⟩

def performAll (run : OperatorRun) (registry : Registry) (calls : List OperatorCall) :
    OperatorRun :=
  calls.foldl (fun run call => run.perform registry call) run

/-- What the operator holds agrees with its history. -/
structure Sound (run : OperatorRun) (registry : Registry) : Prop where
  idle : run.operator.binding.phase.isLive = false →
    run.operator.binding.resolution? = none ∧ run.operator.binding.derived? = none ∧
      run.operator.binding.bound? = none
  prepared : run.operator.binding.phase = .prepared →
    run.operator.binding.resolution?.isSome = true ∧ run.operator.binding.derived? = none
  executable : run.operator.binding.phase = .executable →
    ∃ resolution requested kernel backend inputs outputs,
      run.operator.binding.resolution? = some resolution ∧
      registry.kernel? resolution.kernel = some kernel ∧
      OperatorEvent.lastPrepared? run.history = some (backend, inputs, outputs) ∧
      run.operator.plan registry backend inputs outputs =
        .ok (requested, kernel, .capture kernel inputs outputs) ∧
      resolution.kernel = requested.kernel ∧ resolution.path = requested.path ∧
      run.operator.binding.bound? = some (.capture kernel inputs outputs) ∧
      (∀ tensor ∈ inputs ++ outputs, tensor.Usable) ∧
      (∀ ledger, (run.operator.derive kernel resolution.path inputs ledger).2 =
        .ok run.operator.binding.derived?) ∧
      OperatorEvent.Armed run.history

variable {registry : Registry} {run : OperatorRun}

theorem start_sound (name : String) (params : Params) (lifetime : StateLifetime)
    (allowFallback : Bool) :
    (start (Operator.create name params lifetime allowFallback)).Sound registry where
  idle _ := ⟨rfl, rfl, rfl⟩
  prepared impossible := by cases impossible
  executable impossible := by cases impossible

theorem Sound.release (sound : run.Sound registry) (history : List OperatorEvent) :
    (OperatorRun.mk run.operator.release history).Sound registry := by
  unfold Operator.release
  by_cases live : run.operator.binding.phase.isLive = true
  · rw [if_pos live]
    exact ⟨fun _ => ⟨rfl, rfl, rfl⟩, fun impossible => (by cases impossible),
      fun impossible => (by cases impossible)⟩
  · rw [if_neg live]
    refine ⟨sound.idle, fun prepared => ?_, fun executable => ?_⟩
    · exact absurd (by rw [prepared]; rfl) live
    · exact absurd (by rw [executable]; rfl) live

theorem Sound.unchanged (sound : run.Sound registry) (executions : Nat) {event : OperatorEvent}
    (quiet : event = .ran ∨ event = .refused) :
    (OperatorRun.mk { run.operator with executions } (event :: run.history)).Sound registry := by
  refine ⟨sound.idle, sound.prepared, fun executable => ?_⟩
  obtain ⟨resolution, requested, kernel, backend, inputs, outputs, present, found, last, planned,
    sameKernel, samePath, bound, usable, derived, armed⟩ := sound.executable executable
  refine ⟨resolution, requested, kernel, backend, inputs, outputs, present, found, ?_, planned,
    sameKernel, samePath, bound, usable, derived, OperatorEvent.Armed.later armed quiet⟩
  rcases quiet with rfl | rfl <;> exact last

/-- The kernel and the path of a live binding are those of any request without conflict. -/
theorem Sound.live_resolution (sound : run.Sound registry) {requested : Resolution}
    (calm : run.operator.binding.conflict? requested = none)
    (live : run.operator.binding.phase.isLive = true) :
    ∃ resolution, run.operator.binding.resolution? = some resolution ∧
      resolution.kernel = requested.kernel ∧ resolution.path = requested.path := by
  have present : run.operator.binding.resolution?.isSome = true := by
    cases phase : run.operator.binding.phase with
    | unbound | released => simp [phase, BindingState.isLive] at live
    | prepared => exact (sound.prepared phase).1
    | executable =>
        obtain ⟨resolution, _, _, _, _, _, present, _⟩ := sound.executable phase
        rw [present]
        rfl
  obtain ⟨resolution, found⟩ := Option.isSome_iff_exists.1 present
  have same := Operator.sameBinding_of_conflict? calm live found
  rw [Resolution.sameBinding_iff] at same
  exact ⟨resolution, found, same.2.1, same.2.2⟩

theorem Sound.prepareFor (sound : run.Sound registry) {requested : Resolution}
    (calm : run.operator.binding.conflict? requested = none) :
    (run.operator.binding.prepareFor requested).phase = .prepared ∧
      (run.operator.binding.prepareFor requested).derived? = none ∧
      ∃ resolution, (run.operator.binding.prepareFor requested).resolution? = some resolution ∧
        resolution.kernel = requested.kernel ∧ resolution.path = requested.path := by
  unfold Binding.prepareFor
  cases phase : run.operator.binding.phase with
  | executable =>
      exact ⟨rfl, rfl, sound.live_resolution calm (by rw [phase]; rfl)⟩
  | prepared =>
      exact ⟨phase, (sound.prepared phase).2, sound.live_resolution calm (by rw [phase]; rfl)⟩
  | unbound | released => exact ⟨rfl, rfl, requested, rfl, rfl, rfl⟩

theorem Sound.kept (sound : run.Sound registry) (reads : registry.HooksReadContents)
    {requested : Resolution} {kernel : Kernel} {backend : Backend} {inputs outputs : List Tensor}
    (usable : ∀ tensor ∈ inputs ++ outputs, tensor.Usable)
    (planned : run.operator.plan registry backend inputs outputs =
      .ok (requested, kernel, .capture kernel inputs outputs))
    (calm : run.operator.binding.conflict? requested = none)
    (held : run.operator.binding.holds (.capture kernel inputs outputs) = true) :
    (OperatorRun.mk run.operator
      (.prepared backend inputs outputs :: run.history)).Sound registry := by
  unfold Binding.holds Binding.isExecutable at held
  rw [Bool.and_eq_true, beq_iff_eq] at held
  obtain ⟨executable, sameBound⟩ := held
  refine ⟨sound.idle, sound.prepared, fun _ => ?_⟩
  obtain ⟨resolution, _, current, _, inputs₀, outputs₀, present, found, _, _, _, _, bound, usable₀,
    derived, _⟩ := sound.executable executable
  have same := Operator.sameBinding_of_conflict? calm (by rw [executable]; rfl) present
  rw [Resolution.sameBinding_iff] at same
  have sameKernel : current = kernel := by
    rw [same.2.1, (Operator.plan_eq_ok planned).2.2.1] at found
    exact (Option.some.inj found).symm
  subst sameKernel
  rw [bound] at sameBound
  obtain ⟨captured, contents⟩ := BoundTensors.capture_of_same usable₀ usable sameBound
  refine ⟨resolution, requested, current, backend, inputs, outputs, present, found, rfl, planned,
    same.2.1, same.2.2, by rw [bound, captured], usable, ?_, OperatorEvent.armed_prepared _ _ _ _⟩
  intro ledger
  cases hook : current.hasPrecompute with
  | true =>
      obtain ⟨entry, member, own⟩ := Registry.mem_of_kernel? found
      exact run.operator.derive_sameContents (own ▸ reads entry member) resolution.path
        (contents hook) (derived ledger) ledger
  | false =>
      rw [← derived ledger, Operator.derive_hookless _ hook, Operator.derive_hookless _ hook]

theorem Sound.refreshed (sound : run.Sound registry) {requested : Resolution} {kernel : Kernel}
    {backend : Backend} {inputs outputs : List Tensor} {ledger : ShadowLedger}
    (usable : ∀ tensor ∈ inputs ++ outputs, tensor.Usable)
    (planned : run.operator.plan registry backend inputs outputs =
      .ok (requested, kernel, .capture kernel inputs outputs))
    (calm : run.operator.binding.conflict? requested = none)
    (done : (run.operator.refresh kernel requested (.capture kernel inputs outputs) inputs
      ledger).outcome = .ok ()) :
    (OperatorRun.mk (run.operator.refresh kernel requested (.capture kernel inputs outputs) inputs
      ledger).operator (.prepared backend inputs outputs :: run.history)).Sound registry := by
  obtain ⟨derived, hooked, operator⟩ := Operator.refresh_done done
  obtain ⟨_, nothing, resolution, present, sameKernel, samePath⟩ := sound.prepareFor calm
  rw [operator]
  refine ⟨fun impossible => (by cases impossible), fun impossible => (by cases impossible),
    fun _ => ?_⟩
  have served := (Operator.plan_eq_ok planned).2.2.1
  refine ⟨resolution, requested, kernel, backend, inputs, outputs, present,
    by rw [sameKernel]; exact served, rfl, planned, sameKernel, samePath, rfl, usable, ?_,
    OperatorEvent.armed_prepared _ _ _ _⟩
  intro ledger'
  change (run.operator.derive kernel resolution.path inputs ledger').2 = _
  rw [samePath, run.operator.derive_ledger kernel requested.path inputs ledger' ledger, hooked]
  cases hook : kernel.hasPrecompute with
  | true => rfl
  | false =>
      rw [Operator.derive_hookless _ hook] at hooked
      cases hooked
      rw [nothing]
      rfl

theorem Sound.hookFailed (sound : run.Sound registry) {requested : Resolution} {kernel : Kernel}
    {bound : BoundTensors} {inputs : List Tensor} {ledger : ShadowLedger}
    (calm : run.operator.binding.conflict? requested = none)
    (failed : (run.operator.refresh kernel requested bound inputs ledger).outcome ≠ .ok ()) :
    (OperatorRun.mk (run.operator.refresh kernel requested bound inputs ledger).operator
      (.hookFailed :: run.history)).Sound registry := by
  obtain ⟨phase, nothing, resolution, present, _⟩ := sound.prepareFor calm
  rw [Operator.refresh_failed failed]
  refine ⟨fun idle => ?_, fun _ => ⟨?_, nothing⟩, fun executable => ?_⟩
  · change (run.operator.binding.prepareFor requested).phase.isLive = false at idle
    rw [phase] at idle
    cases idle
  · exact Option.isSome_iff_exists.2 ⟨resolution, present⟩
  · exact absurd (phase.symm.trans executable) (by decide)

theorem Sound.prepare (sound : run.Sound registry) (reads : registry.HooksReadContents)
    {backend : Backend} {inputs outputs : List Tensor} {ledger : ShadowLedger}
    (usable : ∀ tensor ∈ inputs ++ outputs, tensor.Usable) :
    (run.perform registry (.prepare backend inputs outputs ledger)).Sound registry := by
  unfold OperatorRun.perform Operator.perform
  dsimp only
  cases reached : run.operator.reachesHook registry backend inputs outputs with
  | false =>
      obtain ⟨unchanged, kept⟩ := Operator.prepare_of_not_reached ledger reached
      rw [unchanged]
      cases outcome : (run.operator.prepare registry backend inputs outputs ledger).outcome with
      | error fault => exact sound.unchanged _ (.inr rfl)
      | ok _ =>
          obtain ⟨requested, kernel, planned, calm, held⟩ := kept outcome
          exact sound.kept reads usable planned calm held
  | true =>
      obtain ⟨requested, kernel, planned, calm, refreshed⟩ :=
        Operator.prepare_of_reached ledger reached
      rw [refreshed]
      cases outcome : (run.operator.refresh kernel requested (.capture kernel inputs outputs) inputs
          ledger).outcome with
      | error fault =>
          exact sound.hookFailed calm (by rw [outcome]; exact fun same => by cases same)
      | ok _ => exact sound.refreshed usable planned calm outcome

theorem Sound.execute (sound : run.Sound registry) {inputs outputs : List Tensor}
    {ledger : ShadowLedger} :
    (run.perform registry (.execute inputs outputs ledger)).Sound registry := by
  unfold OperatorRun.perform Operator.perform
  dsimp only
  cases outcome : (run.operator.execute registry inputs outputs ledger).outcome with
  | error fault =>
      rw [Operator.execute_operator_of_error outcome]
      exact sound.unchanged _ (.inr rfl)
  | ok _ =>
      rw [Operator.execute_operator_of_done outcome]
      cases lifetime : run.operator.lifetime with
      | untilRelease =>
          rw [Operator.executed_untilRelease lifetime]
          exact sound.unchanged _ (.inl rfl)
      | oneShot =>
          rw [Operator.executed_oneShot lifetime]
          have counted : (OperatorRun.mk { run.operator with
              executions := run.operator.executions + 1 } run.history).Sound registry :=
            ⟨sound.idle, sound.prepared, sound.executable⟩
          exact counted.release _

theorem Sound.perform (sound : run.Sound registry) (reads : registry.HooksReadContents)
    {call : OperatorCall} (usable : call.Usable) : (run.perform registry call).Sound registry := by
  cases call with
  | prepare backend inputs outputs ledger => exact sound.prepare reads usable
  | execute inputs outputs ledger => exact sound.execute
  | release => exact sound.release _

theorem Sound.performAll (sound : run.Sound registry) (reads : registry.HooksReadContents)
    {calls : List OperatorCall} (usable : ∀ call ∈ calls, call.Usable) :
    (run.performAll registry calls).Sound registry := by
  induction calls generalizing run with
  | nil => exact sound
  | cons call rest ih =>
      exact ih (sound.perform reads (usable call (by simp)))
        fun later member => usable later (by simp [member])

end OperatorRun

namespace Operator

/-- Whatever calls are made on a new operator, in whatever order and with whatever outcome, it
holds what its history says, and it only runs when the history has it armed. -/
theorem lifecycle_follows_history {registry : Registry} (reads : registry.HooksReadContents)
    (name : String) (params : Params) (lifetime : StateLifetime) (allowFallback : Bool)
    {calls : List OperatorCall} (usable : ∀ call ∈ calls, call.Usable) :
    let run := (OperatorRun.start (create name params lifetime allowFallback)).performAll
      registry calls
    run.Sound registry ∧
      ∀ inputs outputs ledger,
        (run.operator.execute registry inputs outputs ledger).outcome = .ok () →
          OperatorEvent.Armed run.history := by
  have sound := (OperatorRun.start_sound name params lifetime allowFallback).performAll reads usable
  refine ⟨sound, fun inputs outputs ledger done => ?_⟩
  obtain ⟨_, _, _, _, _, _, _, _, _, _, _, _, _, _, _, armed⟩ :=
    sound.executable (execute_done done).1
  exact armed

end Operator

end

namespace Operator

def layerCalls : List OperatorCall :=
  let single (name : String) (bits : UInt32) : Tensor :=
    ⟨name, ⟨[1, 1]⟩, .nc, none, .external, .f32 #[⟨bits⟩]⟩
  let inputs := [single "x" 0x3F800000, single "w" 0x40000000]
  let outputs := [single "y" 0]
  [.prepare .reference inputs outputs .empty, .execute inputs outputs .empty, .release,
    .prepare .avx2 inputs outputs .empty]

theorem lifecycle_of_layer :
    (∀ call ∈ layerCalls, call.Usable) ∧
      ((OperatorRun.start (create "fc" (.fullyConnected .relu) .untilRelease true)).performAll
        Registry.default layerCalls).Sound Registry.default := by
  have usable : ∀ call ∈ layerCalls, call.Usable := by
    simp only [layerCalls, OperatorCall.Usable, List.forall_mem_cons, List.forall_mem_append]
    simp [Tensor.usable_of_none]
  exact ⟨usable, (lifecycle_follows_history Registry.default_hooksReadContents "fc"
    (.fullyConnected .relu) .untilRelease true usable).1⟩

end Operator

end TensorRuntime
