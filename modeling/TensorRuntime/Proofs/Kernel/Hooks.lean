import TensorRuntime.Operator
import TensorRuntime.Proofs.Contents
import TensorRuntime.Proofs.Registration

/-!
What hooks that derive state look at. The hooks of the default registry read the
signatures and the contents of their inputs, and never the first input.
-/

namespace TensorRuntime

open Attempt

namespace Kernel

/-- Whether a hook succeeds, and with what, depends on signatures and contents only. -/
def HookReadsContents (kernel : Kernel) : Prop :=
  ∀ params inputs inputs', SameContents inputs inputs' →
    (kernel.precompute params inputs).toOption = (kernel.precompute params inputs').toOption

/-- A hook gives the same result whatever the first input is. -/
def HookReadsOperands (kernel : Kernel) : Prop :=
  ∀ params input input' operands,
    kernel.precompute params (input :: operands) = kernel.precompute params (input' :: operands)

end Kernel

theorem toOption_input (params : Params) (inputs outputs : List Tensor) (derived : Option Derived)
    (place : Nat) (routine : String) :
    (Call.input ⟨params, inputs, outputs, derived⟩ place routine).toOption = inputs[place]? := by
  unfold Call.input
  cases inputs[place]? <;> rfl

namespace Tensor

variable (tensor : Tensor) (name : String) (kind : BufferKind) (routine : String)

theorem toOption_singlesFor :
    ({ tensor with name, kind }.singlesFor routine).toOption =
      (tensor.singlesFor routine).toOption := by
  unfold singlesFor
  cases tensor.buffer <;> rfl

theorem toOption_storedFor (elementType : ElementType) :
    ({ tensor with name, kind }.storedFor elementType routine).toOption =
      (tensor.storedFor elementType routine).toOption := by
  unfold storedFor Tensor.elementType
  dsimp only
  cases tensor.buffer.elementType == elementType <;> cases tensor.buffer.integers? <;> rfl

theorem toOption_expect (elementType : ElementType) :
    ({ tensor with name, kind }.expect elementType routine).toOption =
      (tensor.expect elementType routine).toOption := by
  unfold expect Tensor.elementType
  dsimp only
  split <;> rfl

theorem toOption_toSingles [Host] :
    ({ tensor with name, kind }.toSingles).toOption = tensor.toSingles.toOption := by
  unfold toSingles missingRecord Tensor.elementType Tensor.count Tensor.dims
  dsimp only
  rw [toOption_bind, toOption_bind]
  congr 1
  funext _
  cases tensor.buffer with
  | f32 | f16 | bool => rfl
  | i8 values | u8 values | i16 values | i32 values =>
      dsimp only [Buffer.integers?]
      cases tensor.quantization <;> rfl

end Tensor

theorem SameContents.bind_input {α : Type} {inputs inputs' : List Tensor}
    (same : SameContents inputs inputs') (place : Nat) {read : Tensor → Option α}
    (reads : ∀ tensor name kind, read { tensor with name, kind } = read tensor) :
    inputs[place]?.bind read = inputs'[place]?.bind read := by
  rcases same.getElem? place with ⟨absent, absent'⟩ | ⟨input, name, kind, found, found'⟩
  · rw [absent, absent']
  · rw [found, found', Option.bind_some, Option.bind_some, reads input name kind]

variable [Host]

section Hooks

variable (params : Params) {inputs inputs' : List Tensor} (same : SameContents inputs inputs')

include same

omit [Host] in
theorem packedWeights_readsContents {α : Type} (pack : Array Single → List Nat → Attempt α)
    (packed : α → Derived) (routine : String) :
    (do
      let weights ← liftM (Call.input ⟨params, inputs, [], none⟩ 1 routine)
      let values ← pack (← liftM (weights.singlesFor routine)) weights.dims
      return some (packed values) : Attempt (Option Derived)).toOption =
    (do
      let weights ← liftM (Call.input ⟨params, inputs', [], none⟩ 1 routine)
      let values ← pack (← liftM (weights.singlesFor routine)) weights.dims
      return some (packed values) : Attempt (Option Derived)).toOption := by
  simp only [toOption_bind, toOption_lift, toOption_input]
  apply same.bind_input
  intro weights name kind
  rw [weights.toOption_singlesFor name kind]
  rfl

omit [Host] in
theorem packConvWeights_readsContents :
    (packConvWeights params inputs).toOption = (packConvWeights params inputs').toOption := by
  cases params with
  | conv2d => exact packedWeights_readsContents _ same ConvWeights.pack .convWeights _
  | _ => rfl

omit [Host] in
theorem packLaneConvWeights_readsContents :
    (packLaneConvWeights params inputs).toOption =
      (packLaneConvWeights params inputs').toOption := by
  cases params with
  | conv2d => exact packedWeights_readsContents _ same LaneConvWeights.pack .laneConvWeights _
  | _ => rfl

omit [Host] in
theorem packLaneDepthwiseWeights_readsContents :
    (packLaneDepthwiseWeights params inputs).toOption =
      (packLaneDepthwiseWeights params inputs').toOption := by
  cases params with
  | conv2d =>
      exact packedWeights_readsContents _ same LaneDepthwiseWeights.pack .laneDepthwiseWeights _
  | _ => rfl

omit [Host] in
theorem transposeWeights_readsContents :
    (transposeWeights params inputs).toOption = (transposeWeights params inputs').toOption := by
  unfold transposeWeights
  cases params with
  | fullyConnected =>
      simp only [toOption_bind, toOption_lift, toOption_input]
      apply same.bind_input
      intro weights name kind
      unfold TransposedWeights.ofTensor Tensor.dims
      dsimp only
      cases weights.shape.dims with
      | nil => rfl
      | cons columns others =>
          cases others with
          | nil => rfl
          | cons inner _ =>
              simp only [toOption_bind, toOption_lift]
              rw [weights.toOption_singlesFor name kind]
  | _ => rfl

omit [Host] in
theorem foldBatchNorm_readsContents :
    (foldBatchNorm params inputs).toOption = (foldBatchNorm params inputs').toOption := by
  have singles : ∀ place : Nat,
      (inputs[place]?.bind fun input : Tensor => (input.singlesFor batchNormRoutine).toOption) =
        inputs'[place]?.bind fun input : Tensor =>
          (input.singlesFor batchNormRoutine).toOption := by
    intro place
    exact same.bind_input place fun input name kind => input.toOption_singlesFor name kind _
  unfold foldBatchNorm foldInputs
  cases params with
  | batchNorm =>
      simp only [toOption_bind, toOption_lift, toOption_input]
      simp only [← Option.bind_assoc, singles]
  | _ => rfl

theorem realBias_readsContents (place : Nat) :
    (realBias inputs[place]?).toOption = (realBias inputs'[place]?).toOption := by
  rcases same.getElem? place with ⟨absent, absent'⟩ | ⟨bias, name, kind, found, found'⟩
  · rw [absent, absent']
  · rw [found, found', realBias, realBias]
    simp only [toOption_map]
    rw [bias.toOption_toSingles name kind]

theorem stageWeights_readsContents (op : AcceleratorOp) (routine : String) :
    (stageWeights op routine params inputs).toOption =
      (stageWeights op routine params inputs').toOption := by
  have staged : ∀ op,
      (inputs[1]?.bind fun weights =>
        (StagedWeights.stage op weights inputs[2]? routine).toOption) =
      inputs'[1]?.bind fun weights =>
        (StagedWeights.stage op weights inputs'[2]? routine).toOption := by
    intro op
    unfold StagedWeights.stage
    simp only [toOption_bind, toOption_lift, realBias_readsContents same 2]
    apply same.bind_input
    intro weights name kind
    rw [weights.toOption_expect name kind, weights.toOption_storedFor name kind]
    rfl
  unfold stageWeights
  cases op <;> cases params <;> try rfl
  all_goals
    simp only [toOption_bind, toOption_lift, toOption_input]
    rw [← Option.bind_assoc, ← Option.bind_assoc, staged]

end Hooks

namespace Kernel

omit [Host] in
theorem hookReadsContents_of_none {kernel : Kernel} (hookless : kernel.precompute? = none) :
    kernel.HookReadsContents := by
  intro params inputs inputs' _
  simp [precompute, hookless]

omit [Host] in
theorem hookReadsOperands_of_none {kernel : Kernel} (hookless : kernel.precompute? = none) :
    kernel.HookReadsOperands := by
  intro params input input' operands
  simp [precompute, hookless]

end Kernel

namespace Registry

/-- Every hook of a registry looks at signatures and contents only. -/
def HooksReadContents (registry : Registry) : Prop :=
  ∀ entry ∈ registry.entries, entry.kernel.HookReadsContents

open Kernel in
theorem default_hooksReadContents : Registry.default.HooksReadContents := by
  apply default_kernels
  constructor
  case conv => exact fun params _ _ same => packConvWeights_readsContents params same
  case batchNorm => exact fun params _ _ same => foldBatchNorm_readsContents params same
  case fullyConnected => exact fun params _ _ same => transposeWeights_readsContents params same
  case laneConv => exact fun _ params _ _ same => packLaneConvWeights_readsContents params same
  case laneDepthwise =>
      exact fun _ params _ _ same => packLaneDepthwiseWeights_readsContents params same
  case laneFullyConnected =>
      exact fun _ params _ _ same => transposeWeights_readsContents params same
  case acceleratorConv => exact fun params _ _ same => stageWeights_readsContents params same _ _
  case acceleratorFullyConnected =>
      exact fun params _ _ same => stageWeights_readsContents params same _ _
  case lanePool | laneBinary | laneActivation => exact fun _ => hookReadsContents_of_none rfl
  all_goals exact hookReadsContents_of_none rfl

open Kernel in
theorem default_hooksReadOperands :
    ∀ entry ∈ Registry.default.entries, entry.kernel.HookReadsOperands := by
  apply default_kernels
  constructor
  case conv | batchNorm | fullyConnected | acceleratorConv | acceleratorFullyConnected =>
      exact fun _ _ _ _ => rfl
  case laneConv | laneDepthwise | laneFullyConnected => exact fun _ _ _ _ _ => rfl
  case lanePool | laneBinary | laneActivation => exact fun _ => hookReadsOperands_of_none rfl
  all_goals exact hookReadsOperands_of_none rfl

end Registry

def Tensor.floatView (tensor : Tensor) : Attempt Tensor :=
  if tensor.needsShadow then tensor.dequantized else pure tensor

theorem floatViews_eq_mapM (inputs : List Tensor) :
    (floatViews inputs).2 = inputs.mapM Tensor.floatView := by
  induction inputs with
  | nil => rfl
  | cons input rest ih =>
      rw [List.mapM_cons, ← ih, floatViews, Tensor.floatView]
      by_cases shadowed : input.needsShadow = true
      · simp only [shadowed, if_true]
        cases input.dequantized with
        | error fault => rfl
        | ok shadow =>
            cases (floatViews rest).2 <;> rfl
      · simp only [shadowed]
        cases (floatViews rest).2 <;> rfl

theorem Tensor.toOption_dequantized (tensor : Tensor) (name : String) (kind : BufferKind) :
    ({ tensor with name, kind }.dequantized).toOption =
      tensor.dequantized.toOption.map fun shadow => { shadow with name } := by
  unfold Tensor.dequantized
  rw [toOption_bind, tensor.toOption_toSingles name kind, toOption_bind]
  cases tensor.toSingles.toOption with
  | none => rfl
  | some values =>
      simp only [Option.bind_some, toOption_lift, Tensor.shadowOf, toOption_bind, Tensor.dims]
      cases (Tensor.create tensor.shape.dims tensor.layout (.f32 values) none) <;> rfl

theorem floatView_sameContents {input input' view : Tensor} (same : input.SameContents input')
    (viewed : input.floatView = .ok view) :
    ∃ view', input'.floatView = .ok view' ∧ view.SameContents view' := by
  have renamed := Tensor.sameContents_iff.1 same
  have shadowed : input'.needsShadow = input.needsShadow := by
    rw [renamed]
    rfl
  unfold Tensor.floatView at viewed ⊢
  rw [shadowed]
  by_cases needed : input.needsShadow = true
  · rw [if_pos needed] at viewed ⊢
    have shadow := input.toOption_dequantized input'.name input'.kind
    rw [← renamed, viewed] at shadow
    exact ⟨_, toOption_eq_some.1 shadow, rfl, rfl⟩
  · rw [if_neg needed] at viewed ⊢
    cases viewed
    exact ⟨input', rfl, same⟩

theorem floatViews_sameContents {inputs inputs' views : List Tensor}
    (same : SameContents inputs inputs') (viewed : inputs.mapM Tensor.floatView = .ok views) :
    ∃ views', inputs'.mapM Tensor.floatView = .ok views' ∧ SameContents views views' := by
  induction inputs generalizing inputs' views with
  | nil =>
      cases inputs' with
      | nil => exact ⟨views, viewed, SameContents.refl views⟩
      | cons => cases same.1
  | cons input rest ih =>
      cases inputs' with
      | nil => cases same.1
      | cons input' rest' =>
          rw [SameContents.cons_iff] at same
          rw [List.mapM_cons] at viewed ⊢
          simp only [bind_eq_ok, pure_eq_ok] at viewed ⊢
          obtain ⟨view, firstViewed, others, othersViewed, rfl⟩ := viewed
          obtain ⟨view', firstViewed', sameView⟩ := floatView_sameContents same.1 firstViewed
          obtain ⟨others', othersViewed', sameOthers⟩ := ih same.2 othersViewed
          exact ⟨view' :: others', ⟨view', firstViewed', others', othersViewed', rfl⟩,
            SameContents.cons_iff.2 ⟨sameView, sameOthers⟩⟩

namespace Operator

theorem derive_hookless (operator : Operator) {kernel : Kernel}
    (hookless : kernel.hasPrecompute = false) (path : DispatchPath) (inputs : List Tensor)
    (ledger : ShadowLedger) : (operator.derive kernel path inputs ledger).2 = .ok none := by
  unfold derive
  rw [hookless]
  rfl

theorem derive_native (operator : Operator) (kernel : Kernel) (inputs : List Tensor)
    (ledger : ShadowLedger) :
    (operator.derive kernel .native inputs ledger).2 =
      kernel.precompute operator.params inputs := by
  cases hooked : kernel.hasPrecompute with
  | false =>
      have absent : kernel.precompute? = none := by simpa [Kernel.hasPrecompute] using hooked
      rw [derive_hookless operator hooked, Kernel.precompute, absent]
      rfl
  | true =>
      unfold derive
      rw [hooked]
      rfl

theorem derive_fallback (operator : Operator) {kernel : Kernel}
    (hooked : kernel.hasPrecompute = true) (inputs : List Tensor) (ledger : ShadowLedger) :
    (operator.derive kernel .quantFallback inputs ledger).2 =
      inputs.mapM Tensor.floatView >>= kernel.precompute operator.params := by
  unfold derive
  rw [hooked, ← floatViews_eq_mapM]
  rfl

theorem derive_sameContents (operator : Operator) {kernel : Kernel}
    (reads : kernel.HookReadsContents) (path : DispatchPath) {inputs inputs' : List Tensor}
    (same : SameContents inputs inputs') {ledger : ShadowLedger} {derived : Option Derived}
    (done : (operator.derive kernel path inputs ledger).2 = .ok derived)
    (ledger' : ShadowLedger) :
    (operator.derive kernel path inputs' ledger').2 = .ok derived := by
  cases hooked : kernel.hasPrecompute with
  | false =>
      rw [derive_hookless operator hooked] at done ⊢
      exact done
  | true =>
      cases path with
      | native =>
          rw [derive_native] at done ⊢
          have agree := reads operator.params inputs inputs' same
          rw [done] at agree
          exact toOption_eq_some.1 agree.symm
      | quantFallback =>
          rw [derive_fallback operator hooked, bind_eq_ok] at done ⊢
          obtain ⟨views, viewed, primed⟩ := done
          obtain ⟨views', viewed', sameViews⟩ := floatViews_sameContents same viewed
          have agree := reads operator.params views views' sameViews
          rw [primed] at agree
          exact ⟨views', viewed', toOption_eq_some.1 agree.symm⟩

theorem derive_ledger (operator : Operator) (kernel : Kernel) (path : DispatchPath)
    (inputs : List Tensor) (ledger ledger' : ShadowLedger) :
    (operator.derive kernel path inputs ledger).2 =
      (operator.derive kernel path inputs ledger').2 := by
  cases hooked : kernel.hasPrecompute with
  | false => rw [derive_hookless operator hooked, derive_hookless operator hooked]
  | true =>
      cases path with
      | native => rw [derive_native, derive_native]
      | quantFallback => rw [derive_fallback operator hooked, derive_fallback operator hooked]

end Operator

end TensorRuntime
