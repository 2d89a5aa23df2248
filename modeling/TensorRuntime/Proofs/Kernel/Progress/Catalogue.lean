import TensorRuntime.Proofs.Kernel.Progress.Bodies

/-!
The kernels for singles, backend by backend. On singles each of them gives a result for
the operator that it is listed under, as long as its rows hold something.
-/

namespace TensorRuntime

open Attempt

namespace OpKind

def family : OpKind → String
  | conv2d | depthwiseConv2d | groupedConv2d => "conv2d"
  | maxPool2d | avgPool2d => "pool2d"
  | add | sub | mul | maximum | minimum => "eltwise"
  | relu | relu6 | sigmoid | tanh => "activation"
  | reduceSum | reduceMean | reduceMax | reduceMin => "reduce"
  | batchNorm => "batch_norm"
  | softmax => "softmax"
  | fullyConnected => "fully_connected"
  | reshape => "reshape"
  | transpose => "transpose"
  | pad => "pad"

end OpKind

theorem Params.family_of_classify {params : Params} {inputs : List Tensor} {op : OpKind}
    (classified : params.classify inputs = .ok op) : params.family = op.family := by
  cases params with
  | conv2d settings =>
      unfold classify at classified
      dsimp only at classified
      split at classified
      · unfold ConvParams.classify at classified
        rw [bind_eq_ok] at classified
        obtain ⟨image, _, classified⟩ := classified
        simp only [check_eq_ok] at classified
        obtain ⟨_, _, classified⟩ := classified
        cases classified
        split
        · rfl
        · split <;> rfl
      · cases classified
  | pool2d settings =>
      cases classified
      cases settings.mode <;> rfl
  | binary op =>
      cases classified
      cases op <;> rfl
  | activation kind =>
      cases classified
      cases kind <;> rfl
  | reduce settings =>
      cases classified
      cases settings.mode <;> rfl
  | batchNorm | softmax | fullyConnected | reshape | transpose | pad =>
      cases classified
      rfl

/-- On singles under a layout that the kernel takes, admitted calls for an operator are not
refused. -/
structure Kernel.UnrefusedFor (kernel : Kernel) (op : OpKind) : Prop where
  run : ∀ {params input others output derived},
    AdmittedCall kernel.precompute op params (input :: others) output derived →
    (∀ tensor ∈ output :: input :: others, tensor.elementType = .f32) →
    kernel.supports (requestedLayout input) = true →
    (kernel.run ⟨params, input :: others, [output], derived⟩).outcome.Unrefused

theorem Kernel.layout_of_supports {kernel : Kernel} {input : Tensor}
    (only : kernel.layouts = [.nhwc]) (supported : kernel.supports (requestedLayout input) = true) :
    input.layout = .nhwc := by
  apply layout_of_requested
  unfold supports at supported
  rw [only] at supported
  exact (beq_iff_eq.1 (by simpa using supported)).symm

theorem Kernel.unrefusedFor_ofBody {name : String} {layouts : List Layout} {entry : String}
    {hook : Precompute} {precompute? : Option Precompute} {body : Call → Attempt Tensor}
    {op : OpKind} (own : (ofBody name layouts entry precompute? body).precompute = hook)
    (unrefused : ∀ {params input others output derived},
      AdmittedCall hook op params (input :: others) output derived →
      (∀ tensor ∈ output :: input :: others, tensor.elementType = .f32) →
      (layouts = [.nhwc] → input.layout = .nhwc) → params.family = op.family →
      (body ⟨params, input :: others, [output], derived⟩).Unrefused) :
    (ofBody name layouts entry precompute? body).UnrefusedFor op := by
  refine ⟨fun {params input others output derived} call singles supported => ?_⟩
  rw [own] at call
  have layout : layouts = [.nhwc] → input.layout = .nhwc :=
    fun only => Kernel.layout_of_supports only supported
  have ran := unrefused call singles layout (Params.family_of_classify call.classified)
  cases done : body ⟨params, input :: others, [output], derived⟩ with
  | error fault =>
      rw [run_ofBody_error done]
      exact failsOnly_error.2 (ran fault done)
  | ok written =>
      rw [run_ofBody_ok done]
      exact failsOnly_ok ()

section Kernels

open Kernel (unrefusedFor_ofBody)

theorem convKernel_unrefused {op : OpKind} (family : op.family = "conv2d") :
    convKernel.UnrefusedFor op :=
  unrefusedFor_ofBody rfl fun call singles _ own =>
    convBody_unrefused call.toPreparedCall (own.trans family) singles

theorem maxPoolKernel_unrefused : maxPoolKernel.UnrefusedFor .maxPool2d :=
  unrefusedFor_ofBody rfl fun call singles _ own =>
    poolBody_unrefused call.toPreparedCall own singles

theorem avgPoolKernel_unrefused : avgPoolKernel.UnrefusedFor .avgPool2d :=
  unrefusedFor_ofBody rfl fun call singles _ own =>
    poolBody_unrefused call.toPreparedCall own singles

theorem batchNormKernel_unrefused : batchNormKernel.UnrefusedFor .batchNorm :=
  unrefusedFor_ofBody rfl fun call singles _ own =>
    batchNormBody_unrefused call.toPreparedCall singles own

theorem softmaxKernel_unrefused : softmaxKernel.UnrefusedFor .softmax :=
  unrefusedFor_ofBody rfl fun call singles _ own =>
    softmaxBody_unrefused call.toPreparedCall singles own

theorem fullyConnectedKernel_unrefused : fullyConnectedKernel.UnrefusedFor .fullyConnected :=
  unrefusedFor_ofBody rfl fun call singles _ own =>
    fullyConnectedBody_unrefused (accumulateProductBy_neverRefuses _) call.toPreparedCall singles
      own

theorem padKernel_unrefused : padKernel.UnrefusedFor .pad :=
  unrefusedFor_ofBody rfl fun call singles _ own =>
    padBody_unrefused call.toPreparedCall singles own

theorem binaryKernel_unrefused {op : OpKind} (family : op.family = "eltwise") :
    binaryKernel.UnrefusedFor op :=
  unrefusedFor_ofBody rfl fun call singles _ own =>
    binaryBody_unrefused call.toPreparedCall singles (own.trans family)

theorem activationKernel_unrefused {op : OpKind} (family : op.family = "activation") :
    activationKernel.UnrefusedFor op :=
  unrefusedFor_ofBody rfl fun call singles _ own =>
    activationBody_unrefused call.toPreparedCall singles (own.trans family)

theorem reduceKernel_unrefused {op : OpKind} (family : op.family = "reduce") :
    reduceKernel.UnrefusedFor op :=
  unrefusedFor_ofBody rfl fun call singles _ own =>
    reduceBody_unrefused call.toPreparedCall singles (own.trans family)

theorem reshapeKernel_unrefused [Host] : reshapeKernel.UnrefusedFor .reshape :=
  unrefusedFor_ofBody rfl fun call singles _ own => reshapeBody_unrefused call singles own

theorem transposeKernel_unrefused [Host] : transposeKernel.UnrefusedFor .transpose :=
  unrefusedFor_ofBody rfl fun call singles _ own => transposeBody_unrefused call singles own

variable (backend : Backend)

theorem laneConvKernel_unrefused : (laneConvKernel backend).UnrefusedFor .conv2d :=
  unrefusedFor_ofBody rfl fun call singles layout own =>
    laneConvBody_unrefused (fun _ _ same => by cases same; exact layout rfl) singles call own

theorem laneDepthwiseKernel_unrefused :
    (laneDepthwiseKernel backend).UnrefusedFor .depthwiseConv2d :=
  unrefusedFor_ofBody rfl fun call singles layout own =>
    laneDepthwiseBody_unrefused (fun _ _ same => by cases same; exact layout rfl) singles
      call.toPreparedCall own

theorem laneFullyConnectedKernel_unrefused [Host] :
    (laneFullyConnectedKernel backend).UnrefusedFor .fullyConnected :=
  unrefusedFor_ofBody rfl fun call singles _ own =>
    fullyConnectedBody_unrefused accumulateProductChecked_neverRefuses call.toPreparedCall singles
      own

theorem lanePoolKernel_unrefused {op : OpKind} (family : op.family = "pool2d") :
    (lanePoolKernel backend).UnrefusedFor op :=
  unrefusedFor_ofBody rfl fun call singles layout own =>
    lanePoolBody_unrefused (fun _ _ same => by cases same; exact layout rfl) singles
      call.toPreparedCall (own.trans family)

theorem laneBinaryKernel_unrefused {op : OpKind} (family : op.family = "eltwise") :
    (laneBinaryKernel backend).UnrefusedFor op :=
  unrefusedFor_ofBody rfl fun call singles _ own =>
    laneBinaryBody_unrefused call.toPreparedCall singles (own.trans family)

theorem laneActivationKernel_unrefused {op : OpKind} (family : op.family = "activation") :
    (laneActivationKernel backend).UnrefusedFor op :=
  unrefusedFor_ofBody rfl fun call singles _ own =>
    laneActivationBody_unrefused call.toPreparedCall singles (own.trans family)

end Kernels

namespace Catalogue

theorem kernelsOf_rowLayouts [Host] (backend : Backend) : ∀ item ∈ kernelsOf backend,
    backend.cutsRows item.1 = true → item.1 = .fullyConnected ∨ item.2.2.layouts = [.nhwc] := by
  cases backend with
  | reference =>
      simp [kernelsOf, scalarKernels, ElementType.all, Backend.cutsRows]
  | npu => simp [kernelsOf, acceleratorKernels, acceleratorConvKernel, Kernel.ofBody]
  | neon | avx2 | avx512 =>
      simp [kernelsOf, laneKernels, Backend.cutsRows, laneConvKernel, laneDepthwiseKernel,
        lanePoolKernel, Kernel.ofBody]

theorem scalarKernels_unrefused [Host] : ∀ item ∈ scalarKernels, item.2.1 = .f32 →
    item.2.2.UnrefusedFor item.1 := by
  simp only [scalarKernels, List.forall_mem_append, List.forall_mem_cons, List.forall_mem_flatMap,
    List.forall_mem_map]
  simp [ElementType.all, maxPoolKernel_unrefused, avgPoolKernel_unrefused,
    batchNormKernel_unrefused, softmaxKernel_unrefused, fullyConnectedKernel_unrefused,
    padKernel_unrefused, reshapeKernel_unrefused, transposeKernel_unrefused]
  and_intros
  all_goals first
  | exact convKernel_unrefused rfl
  | exact binaryKernel_unrefused rfl
  | exact activationKernel_unrefused rfl
  | exact reduceKernel_unrefused rfl

theorem laneKernels_unrefused [Host] (backend : Backend) : ∀ item ∈ laneKernels backend,
    item.2.2.UnrefusedFor item.1 := by
  simp [laneKernels, laneConvKernel_unrefused, laneDepthwiseKernel_unrefused,
    laneFullyConnectedKernel_unrefused]
  and_intros
  all_goals first
  | exact lanePoolKernel_unrefused backend rfl
  | exact laneBinaryKernel_unrefused backend rfl
  | exact laneActivationKernel_unrefused backend rfl

/-- No kernel for singles refuses an admitted call on singles. -/
theorem kernelsOf_unrefused [Host] (backend : Backend) : ∀ item ∈ kernelsOf backend,
    item.2.1 = .f32 → item.2.2.UnrefusedFor item.1 := by
  cases backend with
  | reference => exact scalarKernels_unrefused
  | npu => simp [kernelsOf, acceleratorKernels]
  | neon | avx2 | avx512 => exact fun item listed _ => laneKernels_unrefused _ item listed

end Catalogue

end TensorRuntime
