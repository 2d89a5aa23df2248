import TensorRuntime.Numeric.Single

/-! State that a kernel derives from its inputs once and reuses on every run. -/

namespace TensorRuntime

/-- Convolution weights `[O, kh, kw, I/g]`: the taps of one output channel are one run. -/
structure ConvWeights where
  outChannels : Nat
  inPerGroup : Nat
  kernelHeight : Nat
  kernelWidth : Nat
  values : Array Single

structure TransposedWeights where
  inner : Nat
  columns : Nat
  values : Array Single

structure FoldedNorm where
  scale : Array Single
  shift : Array Single

/-- Convolution weights `[kh, kw, I, O]`: the output channels of one tap and input are one run. -/
structure LaneConvWeights where
  kernelHeight : Nat
  kernelWidth : Nat
  inChannels : Nat
  outChannels : Nat
  values : Array Single

/-- Depthwise weights `[kh, kw, O]`: the output channels of one tap are one run. -/
structure LaneDepthwiseWeights where
  kernelHeight : Nat
  kernelWidth : Nat
  channels : Nat
  values : Array Single

/-- Accelerator weights with the zero point taken off, `[O, kh, kw, I/g]` or `[M, K]`. -/
structure StagedWeights where
  centered : Array Int
  scales : Array Single
  bias : Option (Array Single)
  outChannels : Nat
  inPerGroup : Nat
  kernelHeight : Nat
  kernelWidth : Nat

inductive Derived where
  | convWeights (weights : ConvWeights)
  | transposedWeights (weights : TransposedWeights)
  | foldedNorm (norm : FoldedNorm)
  | laneConvWeights (weights : LaneConvWeights)
  | laneDepthwiseWeights (weights : LaneDepthwiseWeights)
  | stagedWeights (weights : StagedWeights)

namespace Derived

def label : Derived → String
  | convWeights _ => "packed_conv_weights"
  | transposedWeights _ => "transposed_fc_weights"
  | foldedNorm _ => "folded_batch_norm"
  | laneConvWeights _ => "packed_nhwc_conv"
  | laneDepthwiseWeights _ => "packed_depthwise"
  | stagedWeights _ => "npu_staged_weights"

def byteCount : Derived → Nat
  | convWeights weights => 4 * weights.values.size
  | transposedWeights weights => 4 * weights.values.size
  | foldedNorm norm => 8 * norm.scale.size
  | laneConvWeights weights => 4 * weights.values.size
  | laneDepthwiseWeights weights => 4 * weights.values.size
  | stagedWeights weights => 2 * weights.centered.size + 4 * weights.scales.size

def text (derived : Derived) : String :=
  "DerivedState \x7b label: \"" ++ derived.label ++ "\", bytes: " ++ derived.byteCount.repr ++
    ", .. \x7d"

def convWeights? : Derived → Option ConvWeights
  | convWeights weights => some weights
  | _ => none

def transposedWeights? : Derived → Option TransposedWeights
  | transposedWeights weights => some weights
  | _ => none

def foldedNorm? : Derived → Option FoldedNorm
  | foldedNorm norm => some norm
  | _ => none

def laneConvWeights? : Derived → Option LaneConvWeights
  | laneConvWeights weights => some weights
  | _ => none

def laneDepthwiseWeights? : Derived → Option LaneDepthwiseWeights
  | laneDepthwiseWeights weights => some weights
  | _ => none

def stagedWeights? : Derived → Option StagedWeights
  | stagedWeights weights => some weights
  | _ => none

end Derived

end TensorRuntime
