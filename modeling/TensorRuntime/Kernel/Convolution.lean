import TensorRuntime.Kernel.Arguments
import TensorRuntime.Kernel.Taps

/-! Convolution of single-precision images, plain, grouped and depthwise. -/

namespace TensorRuntime

namespace ConvWeights

def pack (weights : Array Single) (dims : List Nat) : Attempt ConvWeights :=
  match dims with
  | outChannels :: inPerGroup :: kernelHeight :: kernelWidth :: _ => do
      let count := outChannels * inPerGroup * kernelHeight * kernelWidth
      let values ← repack weights 0 count fun index =>
        let channel := index % inPerGroup
        let column := index / inPerGroup % kernelWidth
        let row := index / inPerGroup / kernelWidth % kernelHeight
        let outChannel := index / inPerGroup / kernelWidth / kernelHeight
        ((outChannel * inPerGroup + channel) * kernelHeight + row) * kernelWidth + column
      return ⟨outChannels, inPerGroup, kernelHeight, kernelWidth, values⟩
  | _ => Attempt.abort

def tap (weights : ConvWeights) (outChannel kernelRow kernelColumn : Nat) :
    Attempt (List Single) :=
  readRun weights.values
    (((outChannel * weights.kernelHeight + kernelRow) * weights.kernelWidth + kernelColumn) *
      weights.inPerGroup)
    weights.inPerGroup

end ConvWeights

def startValue (bias : Option (Array Single)) (channel : Nat) : Attempt Single :=
  match bias with
  | some bias => readAt bias channel
  | none => pure 0

/-- One output element: taps are added in order, and within a tap the channels of the group. -/
def convElement (params : ConvParams) (values : Array Single) (image : ImageDims)
    (weights : ConvWeights) (bias : Option (Array Single)) (outPerGroup : Nat) (pixel : Pixel) :
    Attempt Single := do
  nonzero outPerGroup
  let firstChannel := pixel.channel / outPerGroup * weights.inPerGroup
  let start ← startValue bias pixel.channel
  let taps := convTaps params weights.kernelHeight weights.kernelWidth image pixel.row pixel.column
  let sum ← taps.foldlM (fun sum tap => do
    let run ← weights.tap pixel.channel tap.kernelRow tap.kernelColumn
    run.zipIdx.foldlM (fun sum (weight, channel) => do
      let value ← readAt values
        (image.index ⟨pixel.batch, firstChannel + channel, tap.row, tap.column⟩)
      return sum + value * weight) sum) start
  return params.activation.apply sum

def convRoutine : String := "ref_conv2d_f32"

def packConvWeights : Precompute := fun params inputs =>
  match params with
  | .conv2d _ => do
      let weights ← Call.input ⟨params, inputs, [], none⟩ 1 convRoutine
      let packed ← ConvWeights.pack (← weights.singlesFor convRoutine) weights.dims
      return some (.convWeights packed)
  | _ => Attempt.refuse (params.mismatch convRoutine)

def convBody (call : Call) : Attempt Tensor :=
  match call.params with
  | .conv2d params => do
      let input ← call.input 0 convRoutine
      let weights ← call.input 1 convRoutine
      let bias ← biasFor call.inputs[2]? convRoutine
      let image ← ImageDims.ofTensor input
      let packed ← derivedOr (call.derived.bind Derived.convWeights?) do
        ConvWeights.pack (← weights.singlesFor convRoutine) weights.dims
      let values ← input.singlesFor convRoutine
      let outImage ← ImageDims.ofDims (← call.output convRoutine).dims image.layout
      let (output, old) ← call.singleOutput convRoutine
      nonzero params.groups
      let outPerGroup := outImage.channels / params.groups
      output.withSingles <$> tabulate old.size fun index => do
        convElement params values image packed bias outPerGroup (← outImage.pixelAt index)
  | params => Attempt.refuse (params.mismatch convRoutine)

def convKernel : Kernel :=
  .ofBody "ref_conv2d_f32" [.nchw, .nhwc] convRoutine (some packConvWeights) convBody

end TensorRuntime
