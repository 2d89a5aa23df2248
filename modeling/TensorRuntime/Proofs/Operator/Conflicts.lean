import TensorRuntime.Proofs.Operator.Binding
import TensorRuntime.Proofs.Refusals

/-!
Where conflicts of bindings come from. Neither planning a call nor deriving state ever
reports one, so a prepare that does found a live binding of another kernel.
-/

namespace TensorRuntime

open Attempt

def Error.SparesBinding (error : Error) : Prop :=
  ∀ operator bound requested, error.root ≠ .rebindConflict operator bound requested

def Fault.SparesBinding : Fault → Prop
  | .refused error => error.SparesBinding
  | .aborted => True

abbrev Attempt.Sparing {α : Type} (attempt : Attempt α) : Prop :=
  FailsOnly Fault.SparesBinding attempt

abbrev Sparing {α : Type} (attempt : Except Error α) : Prop :=
  FailsOnly Error.SparesBinding attempt

section Causes

variable {α β : Type}

theorem Error.sparesBinding_of_code {error : Error} (other : error.code ≠ 7) :
    error.SparesBinding := by
  intro operator bound requested same
  have code := error.code_root
  rw [same] at code
  exact other code.symm

theorem Error.SparesBinding.inOperator {cause : Error} (spares : cause.SparesBinding) (index : Nat)
    (name : String) : (Error.inOperator index name cause).SparesBinding := by
  rwa [SparesBinding, root_inOperator]

theorem sparing_error {error : Error} (other : error.code ≠ 7) :
    Sparing (.error error : Except Error α) :=
  failsOnly_error.2 (Error.sparesBinding_of_code other)

theorem sparing_refuse {error : Error} (other : error.code ≠ 7) :
    (refuse error : Attempt α).Sparing :=
  failsOnly_refuse.2 (Error.sparesBinding_of_code other)

theorem sparing_lift {first : Except Error α} (sparing : Sparing first) :
    Attempt.Sparing (liftM first) := FailsOnly.lift sparing

theorem sparing_of_unrefused {attempt : Attempt α} (unrefused : attempt.Unrefused) :
    attempt.Sparing :=
  unrefused.mono fun _ same => same ▸ trivial

theorem sparing_abort : (abort : Attempt α).Sparing := sparing_of_unrefused unrefused_abort

end Causes

section Shapes

theorem sparing_ofDims (dims : List Nat) (layout : Layout) :
    Sparing (ImageDims.ofDims dims layout) := by
  unfold ImageDims.ofDims
  split
  · split
    · exact failsOnly_ok _
    · exact failsOnly_ok _
    · exact failsOnly_ok _
    · exact sparing_error nofun
  · exact sparing_error nofun

theorem sparing_ofTensor (tensor : Tensor) : Sparing (ImageDims.ofTensor tensor) := by
  unfold ImageDims.ofTensor
  split
  · exact sparing_error nofun
  · exact sparing_ofDims _ _

theorem sparing_convOutputShape (params : ConvParams) (input weights : Tensor)
    (bias : Option Tensor) : Sparing (convOutputShape params input weights bias) := by
  unfold convOutputShape
  refine (sparing_ofTensor input).bind fun image _ => ?_
  split
  · refine failsOnly_check (fun _ => Error.sparesBinding_of_code nofun) fun _ => ?_
    refine failsOnly_check (fun _ => Error.sparesBinding_of_code nofun) fun _ => ?_
    split
    · refine failsOnly_check (fun _ => Error.sparesBinding_of_code nofun) fun _ => ?_
      dsimp only
      split
      · exact failsOnly_pure _
      · exact sparing_error nofun
    · dsimp only
      split
      · exact failsOnly_pure _
      · exact sparing_error nofun
  · exact sparing_error nofun

theorem sparing_poolOutputShape (params : PoolParams) (input : Tensor) :
    Sparing (poolOutputShape params input) := by
  unfold poolOutputShape
  refine (sparing_ofTensor input).bind fun image _ => ?_
  dsimp only
  split
  · exact failsOnly_pure _
  · exact sparing_error nofun

theorem sparing_batchNormOutputShape (input : Tensor) (statistics : List Tensor) :
    Sparing (batchNormOutputShape input statistics) := by
  unfold batchNormOutputShape
  refine FailsOnly.bind ?_ fun axis _ => FailsOnly.bind ?_ fun _ _ => failsOnly_pure _
  · unfold batchNormAxis
    dsimp only
    split
    · exact sparing_error nofun
    · exact failsOnly_ok _
  · refine failsOnly_forM fun statistic _ => ?_
    split
    · exact sparing_error nofun
    · exact failsOnly_pure _

theorem sparing_fullyConnectedOutputShape (input weights : Tensor) (bias : Option Tensor) :
    Sparing (fullyConnectedOutputShape input weights bias) := by
  unfold fullyConnectedOutputShape
  split
  · split
    · exact sparing_error nofun
    · split
      · split
        · exact sparing_error nofun
        · exact failsOnly_ok _
      · exact failsOnly_ok _
  · exact sparing_error nofun

theorem sparing_distinctAxes (rank : Nat) (axes seen : List Nat) :
    (Shape.distinctAxes rank axes seen).Sparing := by
  induction axes generalizing seen with
  | nil => exact failsOnly_pure _
  | cons axis rest ih =>
      unfold Shape.distinctAxes
      split
      · exact failsOnly_pure _
      · split
        · exact sparing_abort
        · split
          · exact failsOnly_pure _
          · exact ih _

theorem sparing_permute? (shape : Shape) (permutation : List Nat) :
    (shape.permute? permutation).Sparing := by
  unfold Shape.permute?
  split
  · exact failsOnly_pure _
  · refine (sparing_distinctAxes _ _ _).bind fun distinct _ => ?_
    cases distinct with
    | true => exact failsOnly_pure _
    | false => exact failsOnly_pure _

theorem sparing_reduce? (shape : Shape) (axes : List Nat) (keepDims : Bool) :
    (shape.reduce? axes keepDims).Sparing := by
  refine (sparing_distinctAxes _ _ _).bind fun distinct _ => ?_
  cases distinct with
  | true => exact failsOnly_check (fun _ => trivial) fun _ => failsOnly_pure _
  | false => exact failsOnly_pure _

theorem sparing_found {error : Error} (found : Option Shape) (other : error.code ≠ 7) :
    (match found with
      | some shape => (pure shape : Attempt Shape)
      | none => refuse error).Sparing := by
  cases found with
  | none => exact sparing_refuse other
  | some shape => exact failsOnly_pure _

theorem sparing_outputShapeOf (params : Params) (input : Tensor) (others : List Tensor) :
    (params.outputShapeOf input others).Sparing := by
  cases params with
  | conv2d settings =>
      cases others with
      | nil => exact sparing_abort
      | cons weights rest => exact sparing_lift (sparing_convOutputShape _ _ _ _)
  | pool2d settings => exact sparing_lift (sparing_poolOutputShape _ _)
  | binary =>
      cases others with
      | nil => exact sparing_abort
      | cons other rest => exact sparing_found (input.shape.broadcast? other.shape) nofun
  | activation => exact failsOnly_pure _
  | reduce settings =>
      exact (sparing_reduce? _ _ _).bind fun reduced _ => sparing_found reduced nofun
  | batchNorm => exact sparing_lift (sparing_batchNormOutputShape _ _)
  | softmax axis =>
      unfold Params.outputShapeOf
      dsimp only
      split
      · exact sparing_refuse nofun
      · exact failsOnly_pure _
  | fullyConnected =>
      cases others with
      | nil => exact sparing_abort
      | cons weights rest => exact sparing_lift (sparing_fullyConnectedOutputShape _ _ _)
  | reshape target => exact sparing_found (input.shape.reshape? target) nofun
  | transpose permutation =>
      exact (sparing_permute? _ _).bind fun permuted _ => sparing_found permuted nofun
  | pad pads =>
      unfold Params.outputShapeOf
      dsimp only
      split
      · exact sparing_refuse nofun
      · exact failsOnly_pure _

theorem sparing_outputShape (params : Params) (inputs : List Tensor) :
    (params.outputShape inputs).Sparing := by
  unfold Params.outputShape
  dsimp only
  split
  · exact sparing_refuse nofun
  · split
    · exact sparing_refuse nofun
    · exact sparing_outputShapeOf _ _ _

end Shapes

section Planning

variable {operator : Operator} {registry : Registry} {backend : Backend}
  {inputs outputs : List Tensor}

theorem sparing_classify (params : Params) (inputs : List Tensor) :
    Sparing (params.classify inputs) := by
  cases params with
  | conv2d settings =>
      unfold Params.classify
      dsimp only
      split
      · refine (sparing_ofTensor _).bind fun image _ => ?_
        refine failsOnly_check (fun _ => Error.sparesBinding_of_code nofun) fun _ => ?_
        refine failsOnly_check (fun _ => Error.sparesBinding_of_code nofun) fun _ => ?_
        exact failsOnly_pure _
      · exact sparing_error nofun
  | _ => exact failsOnly_ok _

theorem sparing_choose (op : OpKind) (elementType : ElementType) (allowFallback : Bool) :
    Sparing (registry.choose op elementType backend allowFallback) := by
  unfold Registry.choose
  split
  · exact failsOnly_ok _
  · split
    · split
      · exact failsOnly_ok _
      · exact sparing_error nofun
    · exact sparing_error nofun

theorem sparing_resolve (params : Params) (allowFallback : Bool) :
    Sparing (registry.resolve params inputs backend allowFallback) := by
  unfold Registry.resolve
  refine (sparing_classify _ _).bind fun op _ => ?_
  split
  · exact sparing_error nofun
  · refine (sparing_choose _ _ _).bind fun chosen _ => ?_
    dsimp only
    split
    · exact sparing_error nofun
    · split
      · exact failsOnly_pure _
      · exact sparing_error nofun

theorem sparing_plan : (operator.plan registry backend inputs outputs).Sparing := by
  unfold Operator.plan
  refine FailsOnly.bind ?_ fun _ _ => ?_
  · unfold Operator.checkOutputs
    refine (sparing_outputShape _ _).bind fun shape _ => ?_
    split
    · refine failsOnly_check (fun _ => Error.sparesBinding_of_code nofun) fun _ => ?_
      split
      · exact sparing_refuse nofun
      · exact failsOnly_pure _
    · exact sparing_refuse nofun
  · refine (sparing_lift (sparing_resolve _ _)).bind fun requested _ => ?_
    split
    · exact sparing_refuse nofun
    · exact failsOnly_pure _

end Planning

section Records

theorem sparing_check (affine : Affine) (elementType : ElementType) (range : Int × Int) :
    Sparing (affine.check elementType range) := by
  unfold Affine.check
  split
  · exact sparing_error nofun
  · split
    · exact sparing_error nofun
    · exact failsOnly_ok _

theorem sparing_validateRecord (record : Quantization) (elementType : ElementType)
    (dims : List Nat) : Sparing (record.validate elementType dims) := by
  unfold Quantization.validate
  split
  · exact sparing_error nofun
  · split
    · exact sparing_check _ _ _
    · split
      · exact sparing_error nofun
      · split
        · exact sparing_error nofun
        · exact failsOnly_forM fun pair _ => sparing_check _ _ _

theorem sparing_dequantize (record : Quantization) (elementType : ElementType) (dims : List Nat)
    (stored : Array Int) (outputLength : Nat) :
    (record.dequantize elementType dims stored outputLength).Sparing := by
  unfold Quantization.dequantize
  refine FailsOnly.bind (sparing_lift ?_) fun _ _ => ?_
  · unfold Quantization.checkLengths
    split
    · exact sparing_error nofun
    · exact failsOnly_ok _
  · refine (sparing_lift (sparing_validateRecord _ _ _)).bind fun _ _ => ?_
    exact failsOnly_mapIdxM fun _ _ _ =>
      (sparing_of_unrefused (record.unrefused_affineOf _)).bind fun _ _ => failsOnly_pure _

end Records

namespace Tensor

variable (tensor : Tensor)

theorem sparing_toSingles [Host] : tensor.toSingles.Sparing := by
  unfold toSingles
  refine FailsOnly.bind (sparing_lift ?_) fun _ _ => ?_
  · unfold Buffer.allocate
    split
    · exact failsOnly_ok _
    · exact sparing_error nofun
  · split
    · split
      · exact failsOnly_pure _
      · exact sparing_abort
    · exact failsOnly_pure _
    · refine sparing_of_unrefused (unrefused_tabulate fun _ _ => ?_)
      exact (Buffer.unrefused_readBit _ _).bind fun _ _ => failsOnly_pure _
    · split
      · exact sparing_dequantize _ _ _ _ _
      · exact sparing_refuse nofun

theorem sparing_validate : TensorRuntime.Sparing tensor.validate := by
  unfold validate
  dsimp only
  split
  · exact sparing_error nofun
  · split
    · exact sparing_error nofun
    · split
      · exact sparing_error nofun
      · split
        · exact sparing_validateRecord _ _ _
        · exact failsOnly_ok _
        · exact sparing_error nofun
        · exact sparing_error nofun

theorem sparing_floatView [Host] : tensor.floatView.Sparing := by
  unfold floatView
  split
  · refine tensor.sparing_toSingles.bind fun values _ => sparing_lift ?_
    refine FailsOnly.bind ?_ fun shadow _ => failsOnly_pure _
    unfold create
    refine FailsOnly.bind ?_ fun shape _ =>
      (sparing_validate _).bind fun _ _ => failsOnly_pure _
    unfold Shape.ofDims
    split
    · exact sparing_error nofun
    · exact failsOnly_ok _
  · exact failsOnly_pure _

theorem sparing_singlesFor (routine : String) :
    TensorRuntime.Sparing (tensor.singlesFor routine) := by
  unfold singlesFor
  split
  · exact failsOnly_ok _
  · exact sparing_error nofun

end Tensor

def Kernel.HookSparing (kernel : Kernel) : Prop :=
  ∀ params inputs, (kernel.precompute params inputs).Sparing

section Hooks

variable (params : Params) (inputs : List Tensor)

theorem sparing_input (call : Call) (place : Nat) (routine : String) :
    Sparing (call.input place routine) := by
  unfold Call.input
  split
  · exact failsOnly_ok _
  · exact sparing_error nofun

theorem sparing_packedWeights {α : Type} {pack : Array Single → List Nat → Attempt α}
    {packed : α → Derived} {routine : String}
    (unrefused : ∀ values dims, (pack values dims).Unrefused) :
    Attempt.Sparing (do
      let weights ← liftM (Call.input ⟨params, inputs, [], none⟩ 1 routine)
      let values ← pack (← liftM (weights.singlesFor routine)) weights.dims
      return some (packed values) : Attempt (Option Derived)) :=
  (sparing_lift (sparing_input _ _ _)).bind fun weights _ =>
    (sparing_lift (weights.sparing_singlesFor _)).bind fun _ _ =>
      (sparing_of_unrefused (unrefused _ _)).bind fun _ _ => failsOnly_pure _

theorem sparing_packConvWeights : (packConvWeights params inputs).Sparing := by
  cases params with
  | conv2d =>
      refine sparing_packedWeights _ _ fun values dims => ?_
      unfold ConvWeights.pack
      split
      · exact (unrefused_repack _ _ _).bind fun _ _ => failsOnly_pure _
      · exact unrefused_abort
  | _ => exact sparing_refuse nofun

theorem sparing_packLaneConvWeights : (packLaneConvWeights params inputs).Sparing := by
  cases params with
  | conv2d =>
      refine sparing_packedWeights _ _ fun values dims => ?_
      unfold LaneConvWeights.pack
      split
      · exact (unrefused_repack _ _ _).bind fun _ _ => failsOnly_pure _
      · exact unrefused_abort
  | _ => exact sparing_refuse nofun

theorem sparing_packLaneDepthwiseWeights : (packLaneDepthwiseWeights params inputs).Sparing := by
  cases params with
  | conv2d =>
      refine sparing_packedWeights _ _ fun values dims => ?_
      unfold LaneDepthwiseWeights.pack
      split
      · exact (unrefused_repack _ _ _).bind fun _ _ => failsOnly_pure _
      · exact unrefused_abort
  | _ => exact sparing_refuse nofun

theorem sparing_transposeWeights : (transposeWeights params inputs).Sparing := by
  cases params with
  | fullyConnected =>
      refine (sparing_lift (sparing_input _ _ _)).bind fun weights _ => ?_
      refine FailsOnly.bind ?_ fun _ _ => failsOnly_pure _
      unfold TransposedWeights.ofTensor
      split
      · refine (sparing_lift (weights.sparing_singlesFor _)).bind fun values _ => ?_
        refine FailsOnly.bind (sparing_of_unrefused ?_) fun _ _ => failsOnly_pure _
        unfold transposeMatrix
        split
        · exact unrefused_abort
        · exact unrefused_tabulate fun _ _ => unrefused_readAt _ _
      · exact sparing_abort
  | _ => exact sparing_refuse nofun

theorem sparing_foldBatchNorm : (foldBatchNorm params inputs).Sparing := by
  refine FailsOnly.bind (sparing_lift ?_) fun _ _ => failsOnly_pure _
  have singles : ∀ (call : Call) (place : Nat) (next : Array Single → Except Error FoldedNorm),
      (∀ values, Sparing (next values)) →
      Sparing (do next (← (← call.input place batchNormRoutine).singlesFor batchNormRoutine)) :=
    fun call place next rest =>
      (sparing_input call place _).bind fun tensor _ =>
        (tensor.sparing_singlesFor _).bind fun values _ => rest values
  cases params with
  | batchNorm =>
      exact singles _ 1 _ fun _ => singles _ 2 _ fun _ => singles _ 3 _ fun _ =>
        singles _ 4 _ fun _ => failsOnly_pure _
  | _ => exact sparing_error nofun

theorem sparing_stage [Host] (op : AcceleratorOp) (weights : Tensor) (bias : Option Tensor)
    (routine : String) : (StagedWeights.stage op weights bias routine).Sparing := by
  unfold StagedWeights.stage
  refine FailsOnly.bind (sparing_lift ?_) fun _ _ => ?_
  · unfold Tensor.expect
    split
    · exact failsOnly_ok _
    · exact sparing_error nofun
  refine FailsOnly.bind (sparing_lift ?_) fun record _ => ?_
  · unfold Tensor.weightRecord
    split
    · exact sparing_error nofun
    · split
      · exact sparing_error nofun
      · exact failsOnly_ok _
  refine FailsOnly.bind (sparing_lift ?_) fun stored _ => ?_
  · unfold Tensor.storedFor
    split
    · exact failsOnly_ok _
    · exact sparing_error nofun
  refine FailsOnly.bind (sparing_of_unrefused ?_) fun extents _ => ?_
  · unfold StagedWeights.extents
    split
    · exact failsOnly_pure _
    · exact failsOnly_pure _
    · exact unrefused_abort
  refine FailsOnly.bind (sparing_of_unrefused ?_) fun affines _ => ?_
  · exact failsOnly_mapM fun channel _ => record.unrefused_affineOf channel
  refine (sparing_of_unrefused (unrefused_repack _ _ _)).bind fun unpacked _ => ?_
  refine FailsOnly.bind ?_ fun _ _ => failsOnly_pure _
  cases bias with
  | none => exact failsOnly_pure _
  | some tensor => exact tensor.sparing_toSingles.map _

theorem sparing_stageWeights [Host] (op : AcceleratorOp) (routine : String) :
    (stageWeights op routine params inputs).Sparing := by
  have staged : ∀ op, Attempt.Sparing (do
      let weights ← liftM (Call.input ⟨params, inputs, [], none⟩ 1 routine)
      return some (.stagedWeights (← StagedWeights.stage op weights inputs[2]? routine)) :
        Attempt (Option Derived)) := fun op =>
    (sparing_lift (sparing_input _ _ _)).bind fun weights _ =>
      (sparing_stage op weights _ _).bind fun _ _ => failsOnly_pure _
  cases op with
  | conv =>
      cases params with
      | conv2d => exact staged _
      | _ => exact sparing_refuse nofun
  | fullyConnected =>
      cases params with
      | fullyConnected => exact staged _
      | _ => exact sparing_refuse nofun

theorem Kernel.hookSparing_of_none {kernel : Kernel} (hookless : kernel.precompute? = none) :
    kernel.HookSparing := by
  intro params inputs
  simp only [precompute, hookless]
  exact failsOnly_pure _

end Hooks

open Kernel in
theorem Registry.default_hooksSparing [Host] :
    ∀ entry ∈ Registry.default.entries, entry.kernel.HookSparing := by
  apply default_kernels
  constructor
  case conv => exact sparing_packConvWeights
  case batchNorm => exact sparing_foldBatchNorm
  case fullyConnected => exact sparing_transposeWeights
  case laneConv => exact fun _ => sparing_packLaneConvWeights
  case laneDepthwise => exact fun _ => sparing_packLaneDepthwiseWeights
  case laneFullyConnected => exact fun _ => sparing_transposeWeights
  case acceleratorConv | acceleratorFullyConnected =>
      exact fun _ _ => sparing_stageWeights _ _ _ _
  case lanePool | laneBinary | laneActivation => exact fun _ => hookSparing_of_none rfl
  all_goals exact hookSparing_of_none rfl

namespace Operator

variable {operator : Operator} {registry : Registry} {backend : Backend}
  {inputs outputs : List Tensor} {ledger : ShadowLedger}

theorem sparing_derive [Host] {kernel : Kernel} (sparing : kernel.HookSparing)
    (path : DispatchPath) : (operator.derive kernel path inputs ledger).2.Sparing := by
  cases hooked : kernel.hasPrecompute with
  | false =>
      rw [derive_hookless operator hooked]
      exact failsOnly_ok _
  | true =>
      cases path with
      | native =>
          rw [derive_native]
          exact sparing _ _
      | quantFallback =>
          rw [derive_fallback operator hooked]
          exact (failsOnly_mapM fun tensor _ => tensor.sparing_floatView).bind fun views _ =>
            sparing _ _

/-- A prepare reports a conflict only with what the operator is bound to. -/
theorem sparing_prepare [Host]
    (sparing : ∀ entry ∈ registry.entries, entry.kernel.HookSparing)
    (calm : ∀ requested, registry.resolve operator.params inputs backend operator.allowFallback =
      .ok requested → operator.binding.conflict? requested = none) :
    (operator.prepare registry backend inputs outputs ledger).outcome.Sparing := by
  unfold prepare
  cases planned : operator.plan registry backend inputs outputs with
  | error fault => exact failsOnly_error.2 (sparing_plan fault planned)
  | ok plan =>
      obtain ⟨requested, kernel, bound⟩ := plan
      obtain ⟨_, resolved, found, _⟩ := plan_eq_ok planned
      obtain ⟨entry, member, own⟩ := Registry.mem_of_kernel? found
      dsimp only
      rw [calm requested resolved]
      dsimp only
      split
      · exact failsOnly_ok _
      · have hooked : (operator.derive kernel requested.path inputs ledger).2.Sparing :=
          sparing_derive (own ▸ sparing entry member) requested.path
        unfold refresh
        dsimp only
        split
        · rename_i failed
          rw [failed] at hooked
          exact failsOnly_error.2 (failsOnly_error.1 hooked)
        · exact failsOnly_ok _

end Operator

end TensorRuntime
