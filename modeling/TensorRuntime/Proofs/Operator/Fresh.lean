import TensorRuntime.Proofs.Operator.Binding
import TensorRuntime.Proofs.Operator.Planning

/-!
A bound operator against a new one. An executable operator gives what a new operator
gives that is prepared on the tensors of its latest prepare; state derived from other
inputs is the same when the hook is not there or reads the same operands.
-/

namespace TensorRuntime

open Attempt

variable [Host]

theorem Kernel.runOnShadows_ledger (kernel : Kernel) (call : Call) (ledger ledger' : ShadowLedger) :
    (kernel.runOnShadows call ledger).2 = (kernel.runOnShadows call ledger').2 := by
  unfold runOnShadows
  dsimp only
  split
  · rfl
  · split
    · rfl
    · split
      · rfl
      · rfl

namespace Operator

def renewed (operator : Operator) : Operator :=
  create operator.name operator.params operator.lifetime operator.allowFallback

theorem renewed_prepare (operator : Operator) (registry : Registry) (backend : Backend)
    (inputs outputs : List Tensor) (ledger : ShadowLedger) :
    (operator.prepare registry backend inputs outputs ledger).operator.renewed =
      operator.renewed := by
  obtain ⟨binding, changed⟩ := operator.prepare_operator registry backend inputs outputs ledger
  rw [changed]
  rfl

theorem renewed_execute (operator : Operator) (registry : Registry) (inputs outputs : List Tensor)
    (ledger : ShadowLedger) :
    (operator.execute registry inputs outputs ledger).operator.renewed = operator.renewed := by
  obtain ⟨binding, executions, changed⟩ :=
    operator.execute_operator registry inputs outputs ledger
  rw [changed]
  rfl

omit [Host] in
theorem renewed_release (operator : Operator) : operator.release.renewed = operator.renewed := by
  unfold release
  split <;> rfl

/-- What a new operator with the same settings gives when it is prepared on some inputs and run on
others. -/
def freshRun (operator : Operator) (registry : Registry) (backend : Backend)
    (prepared inputs outputs : List Tensor) : ExecuteResult :=
  let ready := operator.renewed.prepare registry backend prepared outputs .empty
  ready.operator.execute registry inputs outputs ready.ledger

variable {operator : Operator} {registry : Registry} {backend : Backend}
  {requested : Resolution} {kernel : Kernel} {derived : Option Derived}
  {prepared inputs outputs : List Tensor}

theorem runKernel_ledger (operator : Operator) (kernel : Kernel) (path : DispatchPath)
    (derived : Option Derived) (inputs outputs : List Tensor) (ledger ledger' : ShadowLedger) :
    (operator.runKernel kernel path derived inputs outputs ledger).2 =
      (operator.runKernel kernel path derived inputs outputs ledger').2 := by
  cases path with
  | native => rfl
  | quantFallback => exact kernel.runOnShadows_ledger _ _ _

theorem prepare_renewed
    (planned : operator.plan registry backend prepared outputs =
      .ok (requested, kernel, .capture kernel prepared outputs))
    {ledger : ShadowLedger}
    (hooked : (operator.derive kernel requested.path prepared ledger).2 = .ok derived) :
    (operator.renewed.prepare registry backend prepared outputs ledger).operator =
      { operator.renewed with binding :=
        ⟨.executable, some requested, derived, some (.capture kernel prepared outputs)⟩ } := by
  have planned' : operator.renewed.plan registry backend prepared outputs =
      .ok (requested, kernel, .capture kernel prepared outputs) := planned
  have hooked' : (operator.renewed.derive kernel requested.path prepared ledger).2 =
      .ok derived := hooked
  unfold prepare
  rw [planned']
  change (operator.renewed.refresh kernel requested (.capture kernel prepared outputs) prepared
    ledger).operator = _
  unfold refresh
  cases derivation : operator.renewed.derive kernel requested.path prepared ledger with
  | mk after outcome =>
      rw [derivation] at hooked'
      cases hooked'
      dsimp only
      cases hook : kernel.hasPrecompute with
      | true => rfl
      | false =>
          have nothing := operator.renewed.derive_hookless hook requested.path prepared ledger
          rw [derivation] at nothing
          cases nothing
          rfl

theorem freshRun_eq
    (planned : operator.plan registry backend prepared outputs =
      .ok (requested, kernel, .capture kernel prepared outputs))
    (hooked : (operator.derive kernel requested.path prepared .empty).2 = .ok derived)
    (signatures : prepared.map Tensor.signature = inputs.map Tensor.signature)
    (usable : ∀ tensor ∈ inputs ++ outputs, tensor.Usable)
    (sized : ∀ tensor ∈ inputs ++ outputs, tensor.Sized) :
    (operator.freshRun registry backend prepared inputs outputs).outputs =
        (operator.runKernel kernel requested.path derived inputs outputs .empty).2.outputs ∧
      ((operator.runKernel kernel requested.path derived inputs outputs .empty).2.outcome = .ok () →
        (operator.freshRun registry backend prepared inputs outputs).outcome = .ok ()) := by
  have checked : ({ operator.renewed with binding := ⟨.executable, some requested, derived,
      some (.capture kernel prepared outputs)⟩ } : Operator).checkBound inputs outputs =
      .ok () :=
    BoundTensors.check_of_signatures _ signatures rfl usable sized
  unfold freshRun
  dsimp only
  rw [prepare_renewed planned hooked]
  generalize (operator.renewed.prepare registry backend prepared outputs .empty).ledger = ledger
  rw [operator.runKernel_ledger kernel requested.path derived inputs outputs .empty ledger]
  obtain ⟨outcome, left⟩ :=
    @execute_bound _ _ registry _ _ ledger _ _ rfl rfl checked (plan_eq_ok planned).2.2.1
  exact ⟨left, fun done => outcome.trans (mapError_eq_ok.2 done)⟩

end Operator

namespace Operator

variable {operator : Operator} {registry : Registry} {kernel : Kernel}
  {inputs inputs' outputs : List Tensor} {derived : Option Derived}

theorem floatViews_sameOperands {views views' : List Tensor}
    (same : SameContents inputs.tail inputs'.tail) (lengths : inputs'.length = inputs.length)
    (viewed : inputs.mapM Tensor.floatView = .ok views)
    (viewed' : inputs'.mapM Tensor.floatView = .ok views') :
    SameContents views.tail views'.tail ∧ views'.length = views.length := by
  cases inputs with
  | nil =>
      cases inputs' with
      | nil =>
          cases viewed
          cases viewed'
          exact ⟨SameContents.refl [], rfl⟩
      | cons => cases lengths
  | cons input rest =>
      cases inputs' with
      | nil => cases lengths
      | cons input' rest' =>
          rw [List.mapM_cons] at viewed viewed'
          simp only [bind_eq_ok, pure_eq_ok] at viewed viewed'
          obtain ⟨view, _, others, othersViewed, rfl⟩ := viewed
          obtain ⟨view', _, others', othersViewed', rfl⟩ := viewed'
          obtain ⟨_, sameViewed, sameOthers⟩ := floatViews_sameContents same othersViewed
          cases othersViewed'.symm.trans sameViewed
          exact ⟨sameOthers, by simpa using (congrArg List.length sameOthers.1).symm⟩

omit [Host] in
theorem precompute_sameOperands {params : Params} (reads : kernel.HookReadsContents)
    (ignores : kernel.HookReadsOperands) (same : SameContents inputs.tail inputs'.tail)
    (lengths : inputs'.length = inputs.length)
    (done : kernel.precompute params inputs = .ok derived) :
    kernel.precompute params inputs' = .ok derived := by
  cases inputs with
  | nil =>
      cases inputs' with
      | nil => exact done
      | cons => cases lengths
  | cons input rest =>
      cases inputs' with
      | nil => cases lengths
      | cons input' rest' =>
          have agree := reads params (input' :: rest) (input' :: rest')
            (SameContents.cons_iff.2 ⟨⟨rfl, rfl⟩, same⟩)
          rw [ignores params input' input rest, done] at agree
          exact toOption_eq_some.1 agree.symm

theorem derive_sameOperands {path : DispatchPath} (reads : kernel.HookReadsContents)
    (ignores : kernel.HookReadsOperands) (same : SameContents inputs.tail inputs'.tail)
    (lengths : inputs'.length = inputs.length)
    (views : path = .quantFallback → ∃ views, (floatViews inputs').2 = .ok views)
    {ledger : ShadowLedger} (done : (operator.derive kernel path inputs ledger).2 = .ok derived)
    (ledger' : ShadowLedger) :
    (operator.derive kernel path inputs' ledger').2 = .ok derived := by
  cases hooked : kernel.hasPrecompute with
  | false =>
      rw [derive_hookless operator hooked] at done ⊢
      exact done
  | true =>
      cases path with
      | native =>
          rw [derive_native] at done ⊢
          exact precompute_sameOperands reads ignores same lengths done
      | quantFallback =>
          obtain ⟨views', viewed'⟩ := views rfl
          rw [floatViews_eq_mapM] at viewed'
          rw [derive_fallback operator hooked, bind_eq_ok] at done ⊢
          obtain ⟨_, viewed, primed⟩ := done
          obtain ⟨sameViews, viewLengths⟩ := floatViews_sameOperands same lengths viewed viewed'
          exact ⟨views', viewed',
            precompute_sameOperands reads ignores sameViews viewLengths primed⟩

theorem views_of_runKernel {path : DispatchPath} {ledger : ShadowLedger}
    (done : (operator.runKernel kernel path derived inputs outputs ledger).2.outcome = .ok ()) :
    path = .quantFallback → ∃ views, (floatViews inputs).2 = .ok views := by
  rintro rfl
  cases viewed : (floatViews inputs).2 with
  | ok views => exact ⟨views, rfl⟩
  | error fault =>
      unfold runKernel Kernel.runOnShadows at done
      dsimp only at done
      rw [viewed] at done
      cases done

end Operator

namespace OperatorRun

variable {registry : Registry} {run : OperatorRun}

/-- What an executable operator leaves in its outputs is what a new operator leaves that is prepared
on the inputs of the latest prepare and run on the same tensors. Preparing the new operator on the
inputs of the run gives the same too, when the kernel derives nothing or the operands did not
change. -/
theorem Sound.execute_fresh (sound : run.Sound registry) (reads : registry.HooksReadContents)
    (ignores : ∀ entry ∈ registry.entries, entry.kernel.HookReadsOperands) {backend : Backend}
    {inputs₀ outputs₀ inputs outputs : List Tensor} {ledger : ShadowLedger}
    (last : OperatorEvent.lastPrepared? run.history = some (backend, inputs₀, outputs₀))
    (inputFrames : inputs.map Tensor.frame = inputs₀.map Tensor.frame)
    (outputFrames : outputs.map Tensor.frame = outputs₀.map Tensor.frame)
    (usable : ∀ tensor ∈ inputs ++ outputs, tensor.Usable)
    (sized : ∀ tensor ∈ inputs ++ outputs, tensor.Sized)
    (done : (run.operator.execute registry inputs outputs ledger).outcome = .ok ()) :
    (run.operator.freshRun registry backend inputs₀ inputs outputs).outcome = .ok () ∧
      (run.operator.freshRun registry backend inputs₀ inputs outputs).outputs =
        (run.operator.execute registry inputs outputs ledger).outputs ∧
      ((∃ resolution kernel, run.operator.binding.resolution? = some resolution ∧
          registry.kernel? resolution.kernel = some kernel ∧ kernel.hasPrecompute = false) ∨
        SameContents inputs₀.tail inputs.tail →
        (run.operator.freshRun registry backend inputs inputs outputs).outcome = .ok () ∧
          (run.operator.freshRun registry backend inputs inputs outputs).outputs =
            (run.operator.execute registry inputs outputs ledger).outputs) := by
  obtain ⟨resolution, requested, kernel, present, found, _, planned, derived, ran, wrote⟩ :=
    sound.execute_planned last done
  rw [run.operator.runKernel_ledger kernel _ _ inputs outputs ledger .empty] at ran wrote
  have atSetup := Operator.freshRun_eq (Operator.plan_of_signatures rfl
      (Tensor.signatures_of_frames outputFrames) planned)
    (derived .empty) (Tensor.signatures_of_frames inputFrames).symm usable sized
  refine ⟨atSetup.2 ran, atSetup.1.trans wrote.symm, fun unchanged => ?_⟩
  have again : (run.operator.derive kernel requested.path inputs .empty).2 =
      .ok run.operator.binding.derived? := by
    rcases unchanged with ⟨_, kernel', present', found', hookless⟩ | same
    · cases present.symm.trans present'
      cases found.symm.trans found'
      rw [← derived .empty, Operator.derive_hookless _ hookless,
        Operator.derive_hookless _ hookless]
    · obtain ⟨entry, member, own⟩ := Registry.mem_of_kernel? found
      exact Operator.derive_sameOperands (own ▸ reads entry member) (own ▸ ignores entry member)
        same (by simpa using congrArg List.length inputFrames) (Operator.views_of_runKernel ran)
        (derived .empty) .empty
  have now := Operator.freshRun_eq (Operator.plan_of_signatures
    (Tensor.signatures_of_frames inputFrames) (Tensor.signatures_of_frames outputFrames)
      planned) again
    rfl usable sized
  exact ⟨now.2 ran, now.1.trans wrote.symm⟩

end OperatorRun

end TensorRuntime
