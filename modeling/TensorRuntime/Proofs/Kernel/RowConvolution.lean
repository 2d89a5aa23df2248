import TensorRuntime.Kernel.Lanes

/-!
The convolutions over rows of lanes as one. Each packs the weights, unless that is done, and
computes its output row by row; they differ in what they pack and in what they add to a row.
-/

namespace TensorRuntime

/-- How the weights of a convolution are packed, and how a row is computed from them. -/
structure RowConvolution (α : Type) where
  routine : String
  held? : Derived → Option α
  pack : Array Single → List Nat → Attempt α
  outChannels : α → Nat
  row : ConvParams → Array Single → ImageDims → α → Option (Array Single) →
    Nat → Nat → Nat → Nat → Attempt Row

namespace RowConvolution

def dense (lanes : Nat) : RowConvolution LaneConvWeights where
  routine := laneConvRoutine
  held? := Derived.laneConvWeights?
  pack := LaneConvWeights.pack
  outChannels := LaneConvWeights.outChannels
  row := laneConvRow lanes

def depthwise (lanes : Nat) : RowConvolution LaneDepthwiseWeights where
  routine := laneDepthwiseRoutine
  held? := Derived.laneDepthwiseWeights?
  pack := LaneDepthwiseWeights.pack
  outChannels := LaneDepthwiseWeights.channels
  row := laneDepthwiseRow lanes

def body {α : Type} (conv : RowConvolution α) (settings : ConvParams) (call : Call) :
    Attempt Tensor := do
  let input ← call.input 0 conv.routine
  let weights ← call.input 1 conv.routine
  let bias ← biasFor call.inputs[2]? conv.routine
  let image ← channelsLastDims input conv.routine
  let packed ← derivedOr (call.derived.bind conv.held?) do
    conv.pack (← weights.singlesFor conv.routine) weights.dims
  let outImage ← ImageDims.ofDims (← call.output conv.routine).dims .nhwc
  let values ← input.singlesFor conv.routine
  let (output, old) ← call.singleOutput conv.routine
  output.withSingles <$> tabulateRows (conv.outChannels packed) outImage old
    (conv.row settings values image packed bias)

end RowConvolution

section Bodies

variable {lanes : Nat} {settings : ConvParams} {inputs outputs : List Tensor}
  {derived : Option Derived}

theorem laneConvBody_conv2d :
    laneConvBody lanes ⟨.conv2d settings, inputs, outputs, derived⟩ =
      if settings.groups ≠ 1 then
        (Attempt.refuse (.kernelFailure laneConvRoutine
          ("dense kernel called with " ++ settings.groups.repr ++ " groups")) : Attempt PUnit) >>=
          fun _ => (RowConvolution.dense lanes).body settings
            ⟨.conv2d settings, inputs, outputs, derived⟩
      else (RowConvolution.dense lanes).body settings
        ⟨.conv2d settings, inputs, outputs, derived⟩ := rfl

theorem laneDepthwiseBody_conv2d :
    laneDepthwiseBody lanes ⟨.conv2d settings, inputs, outputs, derived⟩ =
      (RowConvolution.depthwise lanes).body settings
        ⟨.conv2d settings, inputs, outputs, derived⟩ := rfl

end Bodies

end TensorRuntime
