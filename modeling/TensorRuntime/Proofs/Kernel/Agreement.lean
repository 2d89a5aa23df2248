import TensorRuntime.Proofs.Kernel.Elementwise
import TensorRuntime.Proofs.Kernel.ImageCalls
import TensorRuntime.Proofs.Registration

/-!
The kernels of every lane width write what the scalar kernels write. For each operator
both kernels compute one element in the same order of operations, so the bits agree
whatever the operations on singles are.
-/

namespace TensorRuntime

open Attempt Catalogue

theorem Backend.lanes_pos (backend : Backend) : 0 < backend.lanes := by
  cases backend <;> decide

theorem Catalogue.kernelsOf_vector [Host] {backend : Backend} (vector : backend.isVector = true) :
    kernelsOf backend = laneKernels backend := by
  cases backend with
  | reference | npu => cases vector
  | neon | avx2 | avx512 => rfl

namespace Kernel

/-- Derived state that a run may get: none, or what the kernel's own hook gives. -/
def Primed (kernel : Kernel) (params : Params) (inputs : List Tensor)
    (derived : Option Derived) : Prop :=
  derived = none ∨ kernel.precompute params inputs = .ok derived

theorem Primed.of_hook {kernel : Kernel} {params : Params} {inputs : List Tensor}
    {derived : Option Derived} {stored : Derived}
    (primed : kernel.Primed params inputs derived)
    (hook : kernel.precompute params inputs = .ok (some stored)) :
    derived = none ∨ derived = some stored := by
  rcases primed with absent | made
  · exact .inl absent
  · rw [hook] at made
    cases made
    exact .inr rfl

/-- Both kernels succeed on a call and write the same tensor, each with or without the state
that its own hook derives, and both hooks succeed. -/
structure Agrees (kernel other : Kernel) (params : Params) (inputs : List Tensor)
    (output : Tensor) : Prop where
  hooks : (∃ derived, kernel.precompute params inputs = .ok derived) ∧
    ∃ derived, other.precompute params inputs = .ok derived
  writes : ∃ written, ∀ derived derived',
    kernel.Primed params inputs derived → other.Primed params inputs derived' →
      kernel.run ⟨params, inputs, [output], derived⟩ = ⟨[written], .ok ()⟩ ∧
        other.run ⟨params, inputs, [output], derived'⟩ = ⟨[written], .ok ()⟩

end Kernel

/-- The calls that both kinds of kernels serve: images have their channels last, convolution is
plain or depthwise, and pooling takes maxima. -/
inductive LaneCall : OpKind → Params → List Tensor → Prop where
  | conv {settings : ConvParams} {input : Tensor} {others : List Tensor}
      (layout : input.layout = .nhwc) (plain : settings.groups = 1) :
      LaneCall .conv2d (.conv2d settings) (input :: others)
  | depthwise {settings : ConvParams} {input : Tensor} {others : List Tensor} {image : ImageDims}
      (layout : input.layout = .nhwc) (found : ImageDims.ofTensor input = .ok image)
      (grouped : settings.groups = image.channels) :
      LaneCall .depthwiseConv2d (.conv2d settings) (input :: others)
  | maxPool {settings : PoolParams} {input : Tensor} {others : List Tensor}
      (layout : input.layout = .nhwc) (mode : settings.mode = .max) :
      LaneCall .maxPool2d (.pool2d settings) (input :: others)
  | binary (op : BinaryOp) (activation : FusedActivation) (inputs : List Tensor) :
      LaneCall op.kind (.binary op activation) inputs
  | activation (kind : ActivationKind) (inputs : List Tensor) :
      LaneCall kind.kind (.activation kind) inputs

section Operators

variable {input output : Tensor} {inputs others : List Tensor} (backend : Backend)

theorem convKernels_agree {settings : ConvParams}
    (valid : ValidCall (.conv2d settings) (input :: others) output)
    (layout : input.layout = .nhwc) (plain : settings.groups = 1) :
    (laneConvKernel backend).Agrees convKernel (.conv2d settings) (input :: others) output := by
  obtain ⟨weights, rest, conv, old, outImage, rfl, rfl, serves⟩ :=
    Convolution.exists_serves valid layout
  have laneHook : (laneConvKernel backend).precompute (.conv2d conv.params)
      (input :: weights :: rest) = .ok _ := serves.packLaneConvWeights_eq
  have hook : convKernel.precompute (.conv2d conv.params) (input :: weights :: rest) = .ok _ :=
    serves.packConvWeights_eq
  refine ⟨⟨⟨_, laneHook⟩, _, hook⟩, conv.result output old outImage,
    fun derived derived' lanePrimed primed => ⟨?_, ?_⟩⟩
  · exact Kernel.run_ofBody_ok
      (serves.laneConvBody_eq backend.lanes_pos plain (lanePrimed.of_hook laneHook))
  · exact Kernel.run_ofBody_ok (serves.convBody_eq (primed.of_hook hook))

theorem depthwiseKernels_agree {settings : ConvParams} {image : ImageDims}
    (valid : ValidCall (.conv2d settings) (input :: others) output)
    (layout : input.layout = .nhwc) (found : ImageDims.ofTensor input = .ok image)
    (grouped : settings.groups = image.channels) :
    (laneDepthwiseKernel backend).Agrees convKernel (.conv2d settings) (input :: others)
      output := by
  obtain ⟨weights, rest, conv, old, outImage, rfl, rfl, serves⟩ :=
    Convolution.exists_serves valid layout
  have single : conv.perGroup = 1 := by
    have same := serves.image.symm.trans found
    cases same
    have channels := conv.channels
    rw [← grouped] at channels
    exact (Nat.mul_eq_left (Nat.ne_of_gt serves.positive.1)).1 channels.symm
  have laneHook : (laneDepthwiseKernel backend).precompute (.conv2d conv.params)
      (input :: weights :: rest) = .ok _ := serves.packLaneDepthwiseWeights_eq single
  have hook : convKernel.precompute (.conv2d conv.params) (input :: weights :: rest) = .ok _ :=
    serves.packConvWeights_eq
  refine ⟨⟨⟨_, laneHook⟩, _, hook⟩, conv.result output old outImage,
    fun derived derived' lanePrimed primed => ⟨?_, ?_⟩⟩
  · exact Kernel.run_ofBody_ok
      (serves.laneDepthwiseBody_eq backend.lanes_pos single (lanePrimed.of_hook laneHook))
  · exact Kernel.run_ofBody_ok (serves.convBody_eq (primed.of_hook hook))

theorem maxPoolKernels_agree {settings : PoolParams}
    (valid : ValidCall (.pool2d settings) (input :: others) output)
    (layout : input.layout = .nhwc) (mode : settings.mode = .max) :
    (lanePoolKernel backend).Agrees maxPoolKernel (.pool2d settings) (input :: others)
      output := by
  obtain ⟨pool, old, outImage, rfl, serves⟩ := MaxPooling.exists_serves valid layout mode
  refine ⟨⟨⟨none, rfl⟩, none, rfl⟩, pool.result output old outImage,
    fun derived derived' _ _ => ⟨?_, ?_⟩⟩
  · exact Kernel.run_ofBody_ok (serves.lanePoolBody_eq backend.lanes_pos)
  · exact Kernel.run_ofBody_ok serves.poolBody_eq

theorem binaryKernels_agree {op : BinaryOp} {activation : FusedActivation}
    (valid : ValidCall (.binary op activation) inputs output) :
    (laneBinaryKernel backend).Agrees binaryKernel (.binary op activation) inputs output := by
  obtain ⟨written, both⟩ := binaryBodies_agree backend.lanes_pos valid
  refine ⟨⟨⟨none, rfl⟩, none, rfl⟩, written, fun derived derived' _ _ => ⟨?_, ?_⟩⟩
  · exact Kernel.run_ofBody_ok (both derived derived').1
  · exact Kernel.run_ofBody_ok (both derived derived').2

theorem activationKernels_agree {kind : ActivationKind}
    (valid : ValidCall (.activation kind) inputs output) :
    (laneActivationKernel backend).Agrees activationKernel (.activation kind) inputs output := by
  obtain ⟨written, both⟩ := activationBodies_agree backend.lanes_pos valid
  refine ⟨⟨⟨none, rfl⟩, none, rfl⟩, written, fun derived derived' _ _ => ⟨?_, ?_⟩⟩
  · exact Kernel.run_ofBody_ok (both derived derived').1
  · exact Kernel.run_ofBody_ok (both derived derived').2

end Operators

/-- Every backend with lanes writes what the scalar backend writes, bit for bit. -/
theorem laneKernels_agree_with_scalarKernels [Host] {backend : Backend}
    (vector : backend.isVector = true) {op : OpKind} {params : Params} {inputs : List Tensor}
    {output : Tensor} (call : LaneCall op params inputs) (valid : ValidCall params inputs output) :
    ∃ laneKernel scalarKernel,
      Registry.default.kernelFor ⟨op, .f32, backend⟩ = some laneKernel ∧
        Registry.default.kernelFor ⟨op, .f32, .reference⟩ = some scalarKernel ∧
          laneKernel.Agrees scalarKernel params inputs output := by
  have lane : ∀ {kernel : Kernel}, (op, .f32, kernel) ∈ laneKernels backend →
      (∀ other, (op, .f32, other) ∈ laneKernels backend → other = kernel) →
        Registry.default.kernelFor ⟨op, .f32, backend⟩ = some kernel := by
    intro kernel listed only
    rw [← kernelsOf_vector vector] at listed only
    exact Registry.kernelFor_default listed only
  cases call with
  | conv layout plain =>
      exact ⟨laneConvKernel backend, convKernel,
        lane (by simp [laneKernels]) (by simp [laneKernels]),
        Registry.kernelFor_default (by simp [kernelsOf, scalarKernels])
          (by simp [kernelsOf, scalarKernels, ElementType.all]),
        convKernels_agree backend valid layout plain⟩
  | depthwise layout found grouped =>
      exact ⟨laneDepthwiseKernel backend, convKernel,
        lane (by simp [laneKernels]) (by simp [laneKernels]),
        Registry.kernelFor_default (by simp [kernelsOf, scalarKernels])
          (by simp [kernelsOf, scalarKernels, ElementType.all]),
        depthwiseKernels_agree backend valid layout found grouped⟩
  | maxPool layout mode =>
      exact ⟨lanePoolKernel backend, maxPoolKernel,
        lane (by simp [laneKernels]) (by simp [laneKernels]),
        Registry.kernelFor_default (by simp [kernelsOf, scalarKernels])
          (by simp [kernelsOf, scalarKernels, ElementType.all]),
        maxPoolKernels_agree backend valid layout mode⟩
  | binary op activation inputs =>
      refine ⟨laneBinaryKernel backend, binaryKernel, lane ?_ ?_,
        Registry.kernelFor_default ?_ ?_, binaryKernels_agree backend valid⟩ <;>
        cases op <;> simp [laneKernels, kernelsOf, scalarKernels, ElementType.all, BinaryOp.kind]
  | activation kind inputs =>
      refine ⟨laneActivationKernel backend, activationKernel, lane ?_ ?_,
        Registry.kernelFor_default ?_ ?_, activationKernels_agree backend valid⟩ <;>
        cases kind <;>
          simp [laneKernels, kernelsOf, scalarKernels, ElementType.all, ActivationKind.kind]

def paddedParams : ConvParams := ⟨(1, 1), .uniform 1, (1, 1), 3, .relu⟩

def paddedInputs : List Tensor :=
  let single (name : String) (dims : List Nat) (layout : Layout) : Tensor :=
    ⟨name, ⟨dims⟩, layout, none, .external, .f32 (Array.replicate (volume dims) ⟨0x3F800000⟩)⟩
  [single "x" [1, 2, 1, 3] .nhwc, single "w" [6, 1, 2, 1] .any, single "b" [6] .any]

def paddedOutput : Tensor :=
  ⟨"y", ⟨[1, 3, 3, 6]⟩, .nhwc, none, .scratch, .f32 (Array.replicate 54 0)⟩

theorem paddedKernels_agree :
    Backend.avx2.isVector = true ∧
      LaneCall .depthwiseConv2d (.conv2d paddedParams) paddedInputs ∧
      ValidCall (.conv2d paddedParams) paddedInputs paddedOutput ∧
      ∃ laneKernel scalarKernel,
        Registry.default.kernelFor ⟨.depthwiseConv2d, .f32, .avx2⟩ = some laneKernel ∧
          Registry.default.kernelFor ⟨.depthwiseConv2d, .f32, .reference⟩ = some scalarKernel ∧
            laneKernel.Agrees scalarKernel (.conv2d paddedParams) paddedInputs paddedOutput := by
  have call : LaneCall .depthwiseConv2d (.conv2d paddedParams) paddedInputs :=
    .depthwise rfl (show ImageDims.ofTensor _ = .ok ⟨1, 3, 2, 1, true⟩ from rfl) rfl
  have valid : ValidCall (.conv2d paddedParams) paddedInputs paddedOutput := by
    refine ⟨rfl, ?_, ?_, ?_⟩ <;>
      simp only [paddedInputs, paddedOutput, List.forall_mem_cons, List.not_mem_nil,
        false_implies, implies_true, and_true]
    · exact ⟨rfl, rfl, rfl, rfl⟩
    · exact ⟨rfl, rfl, rfl, rfl⟩
    · decide
  exact ⟨rfl, call, valid, laneKernels_agree_with_scalarKernels rfl call valid⟩

end TensorRuntime
