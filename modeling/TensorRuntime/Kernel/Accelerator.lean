import TensorRuntime.Kernel.StoredIntegers
import TensorRuntime.Numeric.Requantizer

/-! The integer accelerator. Weights are staged before the first run, centred on their zero point;
a run sums integers in words of 64 bits and scales each sum with a fixed-point multiplier. Images
have their channels last. -/

namespace TensorRuntime

open Requantizer (wrap64)

inductive AcceleratorOp where
  | conv | fullyConnected
  deriving DecidableEq, Repr

namespace StagedWeights

def extents (op : AcceleratorOp) (dims : List Nat) : Attempt (Nat × Nat × Nat × Nat) :=
  match op, dims with
  | .conv, outChannels :: inPerGroup :: kernelHeight :: kernelWidth :: _ =>
      pure (outChannels, inPerGroup, kernelHeight, kernelWidth)
  | .fullyConnected, columns :: inner :: _ => pure (columns, inner, 1, 1)
  | _, _ => Attempt.abort

/-- Stages signed-byte weights: `[O, I/g, kh, kw]` or `[M, K]`. Centred weights are kept in 16
bits. -/
def stage [Host] (op : AcceleratorOp) (weights : Tensor) (bias : Option Tensor) (routine : String) :
    Attempt StagedWeights := do
  weights.expect .i8 routine
  let record ← weights.weightRecord routine
  let stored ← weights.storedFor .i8 routine
  let (outChannels, inPerGroup, kernelHeight, kernelWidth) ← extents op weights.dims
  let perChannel := inPerGroup * kernelHeight * kernelWidth
  let affines ← (List.range outChannels).mapM record.affineOf
  let zeroPoints := (affines.map Affine.zeroPoint).toArray
  let unpacked ← repack stored 0 (outChannels * perChannel) fun index =>
    let channel := index % inPerGroup
    let column := index / inPerGroup % kernelWidth
    let row := index / inPerGroup / kernelWidth % kernelHeight
    let outChannel := index / perChannel
    ((outChannel * inPerGroup + channel) * kernelHeight + row) * kernelWidth + column
  let centered := unpacked.mapIdx fun index value =>
    if index < outChannels * perChannel then
      (value - zeroPoints.getD (index / perChannel) 0).bmod (1 <<< 16)
    else value
  let bias ← realBias bias
  return ⟨centered, (affines.map Affine.scale).toArray, bias, outChannels, inPerGroup, kernelHeight,
    kernelWidth⟩

def taps (staged : StagedWeights) (outChannel kernelRow kernelColumn : Nat) :
    Attempt (List Int) :=
  readRun staged.centered
    (outChannel * staged.inPerGroup * staged.kernelHeight * staged.kernelWidth +
      (kernelRow * staged.kernelWidth + kernelColumn) * staged.inPerGroup)
    staged.inPerGroup

def requantizers (staged : StagedWeights) (inputScale outputScale : Single) :
    Array Requantizer :=
  staged.scales.map fun scale =>
    .ofRatio (inputScale.toFloat * scale.toFloat / outputScale.toFloat)

def roundedBias (value : Float) : Int :=
  let limit : Int := (1 <<< 63 : Nat)
  match BinaryFormat.double.decode value.toBits.toNat with
  | .notANumber => 0
  | .infinite negative => if negative then -limit else limit - 1
  | .finite negative significand exponent =>
      let magnitude := roundHalfAway ((significand : Rat) * 2 ^ exponent)
      max (-limit) (min (limit - 1) (if negative then -magnitude else magnitude))

def biases (staged : StagedWeights) (inputScale : Single) : Attempt (Array Int) :=
  tabulate staged.outChannels fun outChannel =>
    match staged.bias with
    | none => pure 0
    | some bias => do
        let unit := inputScale.toFloat * (← readAt staged.scales outChannel).toFloat
        if 0 < unit then return roundedBias ((← readAt bias outChannel).toFloat / unit)
        else return 0

end StagedWeights

def activationBounds (activation : FusedActivation) (affine : Affine) : Int × Int :=
  match activation with
  | .none => (-128, 127)
  | .relu => (max affine.zeroPoint (-128), 127)
  | .relu6 => (max affine.zeroPoint (-128), min (affine.quantize (-128, 127) 6) 127)

structure OutputStage where
  requantizers : Array Requantizer
  biases : Array Int
  zeroPoint : Int
  bounds : Int × Int

namespace OutputStage

def build (staged : StagedWeights) (inputScale : Single) (outAffine : Affine)
    (activation : FusedActivation) : Attempt OutputStage := do
  return ⟨staged.requantizers inputScale outAffine.scale, ← staged.biases inputScale,
    outAffine.zeroPoint, activationBounds activation outAffine⟩

def store (stage : OutputStage) (outChannel : Nat) (sum : Int) : Attempt Int := do
  let requantizer ← readAt stage.requantizers outChannel
  if stage.bounds.2 < stage.bounds.1 then Attempt.abort
  return max stage.bounds.1
    (min stage.bounds.2 (wrap64 (requantizer.apply sum + stage.zeroPoint)))

end OutputStage

def Tensor.signedBytes (tensor : Tensor) (refusal : Error) : Except Error (Array Int) :=
  match tensor.buffer with
  | .i8 values => .ok (values.map Int8.toInt)
  | _ => .error refusal

def acceleratorConvRoutine : String := "npu_conv2d_i8"

def stagedConvSum (params : ConvParams) (stored : Array Int) (image : ImageDims)
    (zeroPoint : Int) (staged : StagedWeights) (group : Nat) (pixel : Pixel) (start : Int) :
    Attempt Int := do
  let taps := convTaps params staged.kernelHeight staged.kernelWidth image pixel.row pixel.column
  let total ← taps.foldlM (fun sum tap => do
    let inputs ← readRun stored
      (image.index ⟨pixel.batch, group * staged.inPerGroup, tap.row, tap.column⟩)
      staged.inPerGroup
    let weights ← staged.taps pixel.channel tap.kernelRow tap.kernelColumn
    return (inputs.zip weights).foldl
      (fun sum entry => sum + (entry.1 - zeroPoint) * entry.2) sum) start
  return wrap64 total

def acceleratorConvBody (staged : StagedWeights) (call : Call) : Attempt Tensor :=
  match call.params with
  | .conv2d params => do
      let input ← call.input 0 acceleratorConvRoutine
      let affine ← input.affineFor acceleratorConvRoutine
      let image ← ImageDims.ofTensor input
      if !image.channelsLast then
        Attempt.refuse (.unsupportedLayout input.layout
          (acceleratorConvRoutine ++ " reads nhwc activations"))
      let stored ← input.signedBytes (.unsupportedElementType input.elementType
        (acceleratorConvRoutine ++ " reads i8 activations"))
      let output ← call.output acceleratorConvRoutine
      let outAffine ← output.affineFor acceleratorConvRoutine
      let outImage ← ImageDims.ofDims output.dims .nhwc
      let stage ← OutputStage.build staged affine.scale outAffine params.activation
      let outPerGroup := staged.outChannels / max params.groups 1
      let old ← output.signedBytes
        (.kernelFailure acceleratorConvRoutine "output buffer is not i8")
      nonzero staged.outChannels
      let convolved ← tabulate old.size fun index => do
        let outChannel := index % staged.outChannels
        let position := index / staged.outChannels
        nonzero outImage.width
        nonzero outImage.height
        let pixel : Pixel :=
          ⟨position / (outImage.width * outImage.height), outChannel,
            position / outImage.width % outImage.height, position % outImage.width⟩
        nonzero outPerGroup
        let sum ← stagedConvSum params stored image affine.zeroPoint staged
          (outChannel / outPerGroup) pixel (← readAt stage.biases outChannel)
        stage.store outChannel sum
      output.withStored convolved
  | params => Attempt.refuse (params.mismatch acceleratorConvRoutine)

def acceleratorFullyConnectedRoutine : String := "npu_fully_connected_i8"

def acceleratorFullyConnectedBody (staged : StagedWeights) (call : Call) : Attempt Tensor :=
  match call.params with
  | .fullyConnected activation => do
      let input ← call.input 0 acceleratorFullyConnectedRoutine
      let affine ← input.affineFor acceleratorFullyConnectedRoutine
      let stored ← input.signedBytes (.unsupportedElementType input.elementType
        (acceleratorFullyConnectedRoutine ++ " reads i8 activations"))
      let output ← call.output acceleratorFullyConnectedRoutine
      let outAffine ← output.affineFor acceleratorFullyConnectedRoutine
      let stage ← OutputStage.build staged affine.scale outAffine activation
      let old ← output.signedBytes
        (.kernelFailure acceleratorFullyConnectedRoutine "output buffer is not i8")
      nonzero staged.outChannels
      let products ← tabulate old.size fun index => do
        let column := index % staged.outChannels
        let inputs ← readRun stored (index / staged.outChannels * staged.inPerGroup)
          staged.inPerGroup
        let weights ← staged.taps column 0 0
        let total := (inputs.zip weights).foldl
          (fun sum entry => sum + (entry.1 - affine.zeroPoint) * entry.2)
          (← readAt stage.biases column)
        stage.store column (wrap64 total)
      output.withStored products
  | params => Attempt.refuse (params.mismatch acceleratorFullyConnectedRoutine)

def stageWeights [Host] (op : AcceleratorOp) (routine : String) : Precompute := fun params inputs =>
  let staged : Attempt (Option Derived) := do
    let weights ← Call.input ⟨params, inputs, [], none⟩ 1 routine
    return some (.stagedWeights (← StagedWeights.stage op weights inputs[2]? routine))
  match op, params with
  | .conv, .conv2d _ => staged
  | .fullyConnected, .fullyConnected _ => staged
  | _, _ => Attempt.refuse (params.mismatch routine)

def withStaged (routine : String) (body : StagedWeights → Call → Attempt Tensor) (call : Call) :
    Attempt Tensor :=
  match call.derived.bind Derived.stagedWeights? with
  | some staged => body staged call
  | none => Attempt.refuse (.kernelFailure routine "weights were not staged")

def acceleratorConvKernel [Host] : Kernel :=
  .ofBody "npu_conv2d_i8" [.nhwc] acceleratorConvRoutine
    (some (stageWeights .conv acceleratorConvRoutine))
    (withStaged acceleratorConvRoutine acceleratorConvBody)

def acceleratorFullyConnectedKernel [Host] : Kernel :=
  .ofBody "npu_fully_connected_i8" [.nc] acceleratorFullyConnectedRoutine
    (some (stageWeights .fullyConnected acceleratorFullyConnectedRoutine))
    (withStaged acceleratorFullyConnectedRoutine acceleratorFullyConnectedBody)

end TensorRuntime
