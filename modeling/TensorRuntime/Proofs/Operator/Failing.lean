import TensorRuntime.Proofs.Dispatch
import TensorRuntime.Proofs.Operator.Fallback
import TensorRuntime.Proofs.Operator.InPlace

/-!
Calls that an operator refuses. An execute that fails changes nothing, and a prepare that fails
changes the binding only when it came as far as deriving state.
-/

namespace TensorRuntime

open Attempt

section

variable [Host]

theorem Tensor.Valid.floatView_failed {tensor : Tensor} (valid : tensor.Valid) {fault : Fault}
    (failed : tensor.floatView = .error fault) :
    tensor.needsShadow = true ∧ ∃ error, fault = .refused error ∧
      Buffer.allocate tensor.count 4 "dequantized buffer" = .error error := by
  cases shadowed : tensor.needsShadow with
  | false =>
      unfold Tensor.floatView at failed
      rw [shadowed] at failed
      cases failed
  | true =>
      refine ⟨rfl, ?_⟩
      cases allocated : Buffer.allocate tensor.count 4 "dequantized buffer" with
      | ok _ =>
          obtain ⟨view, viewed⟩ :=
            valid.exists_floatView fun _ => Tensor.hasRoom_of_allocate allocated
          cases viewed.symm.trans failed
      | error error =>
          unfold Tensor.floatView Tensor.dequantized Tensor.toSingles at failed
          rw [shadowed, allocated] at failed
          cases failed
          exact ⟨error, rfl, rfl⟩

namespace Operator

variable {operator : Operator} {registry : Registry} {kernel : Kernel}
  {inputs outputs : List Tensor}

omit [Host] in
theorem single_of_checkBound {bound : BoundTensors} {own : Signature}
    (held : operator.binding.bound? = some bound) (single : bound.outputs = [own])
    (checked : operator.checkBound inputs outputs = .ok ()) : ∃ output, outputs = [output] := by
  unfold checkBound at checked
  rw [held] at checked
  obtain ⟨_, _, fits⟩ := bind_eq_ok.1 checked
  unfold BoundTensors.checkRole at fits
  rw [single] at fits
  split at fits
  · cases fits
  · rename_i lengths
    exact List.length_eq_one_iff.1 (Classical.not_not.1 lengths).symm

theorem execute_failed_outputs (orderly : operator.binding.Orderly)
    (runs : ∀ id kernel, registry.kernel? id = some kernel → ∃ routine, kernel.RunsAs routine)
    {ledger : ShadowLedger} {fault : Fault}
    (failed : (operator.execute registry inputs outputs ledger).outcome = .error fault) :
    (operator.execute registry inputs outputs ledger).outputs = outputs := by
  obtain ⟨_, refused⟩ | ⟨resolution, kernel, executable, present, checked, found⟩ :=
    operator.execute_cases registry inputs outputs ledger
  · rw [refused]
  · obtain ⟨bound, own, held, single⟩ := orderly.executable executable
    obtain ⟨output, rfl⟩ := single_of_checkBound held single checked
    obtain ⟨routine, runs⟩ := runs _ _ found
    exact execute_failed_output executable present found runs failed

/-- Where a refusal to derive state comes from: the hook refuses the inputs or views of them, or a
view of an input is too large to allocate. -/
inductive DerivationRefused (kernel : Kernel) (params : Params) (inputs : List Tensor)
    (error : Error) : DispatchPath → Prop
  | onInputs (refused : kernel.precompute params inputs = .error (.refused error)) :
      DerivationRefused kernel params inputs error .native
  | onViews {views : List Tensor} (viewed : inputs.mapM Tensor.floatView = .ok views)
      (refused : kernel.precompute params views = .error (.refused error)) :
      DerivationRefused kernel params inputs error .quantFallback
  | tooLarge {input : Tensor} (member : input ∈ inputs) (shadowed : input.needsShadow = true)
      (refused : Buffer.allocate input.count 4 "dequantized buffer" = .error error) :
      DerivationRefused kernel params inputs error .quantFallback

theorem hasPrecompute_of_derive_failed {path : DispatchPath} {ledger : ShadowLedger} {fault : Fault}
    (failed : (operator.derive kernel path inputs ledger).2 = .error fault) :
    kernel.hasPrecompute = true := by
  cases hooked : kernel.hasPrecompute with
  | false =>
      rw [derive_hookless operator hooked] at failed
      cases failed
  | true => rfl

theorem derive_refused (valid : ∀ input ∈ inputs, input.Valid) {path : DispatchPath}
    {ledger : ShadowLedger} {error : Error}
    (refused : (operator.derive kernel path inputs ledger).2 = .error (.refused error)) :
    DerivationRefused kernel operator.params inputs error path := by
  have hooked := hasPrecompute_of_derive_failed refused
  cases path with
  | native =>
      rw [derive_native] at refused
      exact .onInputs refused
  | quantFallback =>
      rw [derive_fallback operator hooked] at refused
      cases viewed : inputs.mapM Tensor.floatView with
      | ok views =>
          rw [viewed] at refused
          exact .onViews viewed refused
      | error fault =>
          rw [viewed] at refused
          cases refused
          have causes : FailsOnly (fun fault => ∃ input ∈ inputs, input.needsShadow = true ∧
              ∃ error, fault = .refused error ∧
                Buffer.allocate input.count 4 "dequantized buffer" = .error error)
              (inputs.mapM Tensor.floatView) :=
            failsOnly_mapM fun input member fault failed =>
              ⟨input, member, (valid input member).floatView_failed failed⟩
          obtain ⟨input, member, shadowed, _, same, allocated⟩ := causes _ viewed
          cases same
          exact .tooLarge member shadowed allocated

/-- How an operator is left when deriving state fails for a request: prepared for it, with nothing
derived. -/
structure LeftPrepared (operator : Operator) (backend : Backend) (requested : Resolution)
    (after : Operator) : Prop where
  others : after = { operator with binding := after.binding }
  phase : after.binding.phase = .prepared
  underived : after.binding.derived? = none
  bound : after.binding.bound? = operator.binding.bound?
  serves : ∃ held, after.binding.resolution? = some held ∧ held.backend = backend ∧
    held.kernel = requested.kernel ∧ held.path = requested.path

omit [Host] in
theorem prepareFor_leaves_prepared {backend : Backend} {requested : Resolution}
    (orderly : operator.binding.Orderly) (calm : operator.binding.conflict? requested = none)
    (asked : requested.backend = backend) :
    operator.LeftPrepared backend requested
      { operator with binding := operator.binding.prepareFor requested } where
  others := rfl
  phase := Binding.prepareFor_phase
  underived := orderly.prepareFor_derived
  bound := by
    unfold Binding.prepareFor
    cases phase : operator.binding.phase with
    | prepared | executable => rfl
    | unbound | released =>
        exact (orderly.idle (by rw [phase]; rfl)).2.2.symm
  serves := by
    obtain ⟨held, present, same⟩ := orderly.prepareFor_serves calm
    obtain ⟨backends, kernels, paths⟩ := Resolution.sameBinding_iff.1 same
    exact ⟨held, present, backends.trans asked, kernels, paths⟩

/-- A prepare that is refused leaves the operator as it was, unless it came as far as deriving
state; then the operator is left prepared for what was asked. -/
theorem prepare_refused {backend : Backend} {ledger : ShadowLedger} {error : Error}
    (orderly : operator.binding.Orderly)
    (refused : (operator.prepare registry backend inputs outputs ledger).outcome =
      .error (.refused error)) :
    (operator.reachesHook registry backend inputs outputs = false →
      (operator.prepare registry backend inputs outputs ledger).operator = operator) ∧
    (operator.reachesHook registry backend inputs outputs = true →
      ∃ requested kernel,
        registry.resolve operator.params inputs backend operator.allowFallback = .ok requested ∧
        registry.kernel? requested.kernel = some kernel ∧
        kernel.hasPrecompute = true ∧
        ((∀ input ∈ inputs, input.Valid) →
          DerivationRefused kernel operator.params inputs error requested.path) ∧
        operator.LeftPrepared backend requested
          (operator.prepare registry backend inputs outputs ledger).operator) := by
  have step := operator.prepare_step registry backend inputs outputs ledger
  rw [refused] at step
  generalize (operator.prepare registry backend inputs outputs ledger).operator = after at step ⊢
  cases step with
  | refused early =>
      refine ⟨fun _ => rfl, fun reached => ?_⟩
      cases early.symm.trans reached
  | @underived requested kernel _ _ planned calm reached underived =>
      refine ⟨fun early => ?_, fun _ => ?_⟩
      · cases early.symm.trans reached
      · obtain ⟨_, resolved, found, _⟩ := plan_eq_ok planned
        obtain ⟨_, _, _, _, _, _, _, _, _, _, _, rfl⟩ := Registry.resolve_eq_ok_iff.1 resolved
        exact ⟨_, kernel, resolved, found, hasPrecompute_of_derive_failed underived,
          fun valid => derive_refused valid underived,
          prepareFor_leaves_prepared orderly calm rfl⟩

/-- Whatever was called on an operator of the default registry: an execute that is refused changes
nothing, and no kernel has written in the buffer of the output by then. A prepare that is refused
changes nothing either, unless it is the derivation of state that refuses; then the operator is
left prepared for what was asked. Until the next release, a live binding keeps its resolution. -/
theorem refused_calls_keep_binding (name : String) (params : Params) (lifetime : StateLifetime)
    (allowFallback : Bool) (calls : List OperatorCall) :
    let operator := ((OperatorRun.start (.create name params lifetime allowFallback)).performAll
      .default calls).operator
    (∀ inputs outputs ledger error,
      (operator.execute .default inputs outputs ledger).outcome = .error (.refused error) →
        (operator.execute .default inputs outputs ledger).operator = operator ∧
          (operator.execute .default inputs outputs ledger).outputs = outputs) ∧
    (∀ resolution kernel, operator.binding.phase = .executable →
      operator.binding.resolution? = some resolution →
      Registry.default.kernel? resolution.kernel = some kernel →
        ∃ routine, kernel.WrittenAs routine ∧ ∀ inputs output ledger,
          operator.ExecutesBy .default inputs output ledger
            (operator.executeInPlace kernel resolution.path routine inputs output)) ∧
    (∀ backend inputs outputs ledger error,
      let result := operator.prepare .default backend inputs outputs ledger
      result.outcome = .error (.refused error) →
        (operator.reachesHook .default backend inputs outputs = false →
          result.operator = operator) ∧
        (operator.reachesHook .default backend inputs outputs = true →
          ∃ requested kernel,
            Registry.default.resolve params inputs backend allowFallback = .ok requested ∧
            Registry.default.kernel? requested.kernel = some kernel ∧
            kernel.hasPrecompute = true ∧
            ((∀ input ∈ inputs, input.Valid) →
              DerivationRefused kernel params inputs error requested.path) ∧
            operator.LeftPrepared backend requested result.operator)) ∧
    ∀ later, operator.binding.phase.isLive = true →
      .released ∉ ((OperatorRun.start operator).performAll .default later).history →
        ∃ held, operator.binding.resolution? = some held ∧
          ((OperatorRun.start operator).performAll .default later).operator.binding.phase.isLive =
            true ∧
          ((OperatorRun.start operator).performAll .default later).operator.binding.resolution? =
            some held := by
  intro operator
  have orderly : operator.binding.Orderly :=
    @OperatorRun.performAll_orderly _ _ (.start (.create name params lifetime allowFallback))
      Binding.unbound_orderly calls
  have settings : operator.params = params ∧ operator.allowFallback = allowFallback := by
    have kept := (OperatorRun.start (create name params lifetime allowFallback)).performAll_renewed
      .default calls
    simp only [renewed, create, Operator.mk.injEq] at kept
    exact ⟨kept.2.1, kept.2.2.2.2.1⟩
  refine ⟨?_, ?_, ?_, ?_⟩
  · intro inputs outputs ledger error refused
    refine ⟨execute_operator_of_error refused,
      execute_failed_outputs orderly (fun id kernel found => ?_) refused⟩
    obtain ⟨routine, written⟩ := Registry.default_writtenAs found
    exact ⟨routine, written.runs⟩
  · intro resolution kernel executable present found
    obtain ⟨routine, written⟩ := Registry.default_writtenAs found
    exact ⟨routine, written, execute_in_place executable present found written.runs⟩
  · intro backend inputs outputs ledger error result refused
    have left := prepare_refused orderly refused
    rwa [settings.1, settings.2] at left
  · intro later live unreleased
    obtain ⟨held, present⟩ := Option.isSome_iff_exists.1 (orderly.live live)
    obtain ⟨stillLive, same⟩ :=
      @OperatorRun.performAll_keeps_resolution _ _ (.start operator) live later unreleased
    exact ⟨held, present, stillLive, same.trans present⟩

end Operator

end

namespace Operator

def oneByOne (name : String) (quantization : Option Quantization) (buffer : Buffer) : Tensor :=
  ⟨name, ⟨[1, 1]⟩, .nc, quantization, .external, buffer⟩

/-- Prepared again with weights that its hook refuses, a layer loses the state it had derived. -/
theorem integerWeights_leave_prepared :
    let input := oneByOne "x" none (.f32 #[0])
    let weights := oneByOne "w" none (.f32 #[0])
    let stored := oneByOne "w" (some (.perTensor ⟨⟨0x3F800000⟩, 0⟩)) (.i8 #[0])
    let output := oneByOne "y" none (.f32 #[0])
    let fresh := create "fc" (.fullyConnected .none) .untilRelease true
    let operator := ((OperatorRun.start fresh).performAll .default
      [.prepare .reference [input, weights] [output] .empty]).operator
    let result := operator.prepare .default .reference [input, stored] [output] .empty
    operator.binding.phase = .executable ∧ operator.binding.derived?.isSome = true ∧
      ∃ error requested, result.outcome = .error (.refused error) ∧
        operator.LeftPrepared .reference requested result.operator := by
  intro input weights stored output fresh operator result
  have ready : operator.binding.phase = .executable ∧ operator.binding.derived?.isSome = true := by
    simp only [operator, Registry.default_eq]
    decide +kernel
  have refused : result.outcome = .error (.refused (.unsupportedElementType .i8
      "ref_fully_connected_f32 expects f32 for 'w'")) := by
    simp only [result, operator, Registry.default_eq]
    decide +kernel
  have reached : operator.reachesHook .default .reference [input, stored] [output] = true := by
    simp only [operator, Registry.default_eq]
    decide +kernel
  obtain ⟨_, _, prepares, _⟩ := refused_calls_keep_binding "fc" (.fullyConnected .none)
    .untilRelease true [.prepare .reference [input, weights] [output] .empty]
  obtain ⟨requested, _, _, _, _, _, left⟩ := (prepares _ _ _ _ _ refused).2 reached
  exact ⟨ready.1, ready.2, _, requested, refused, left⟩

end Operator

end TensorRuntime
