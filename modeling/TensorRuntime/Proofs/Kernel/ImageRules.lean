import TensorRuntime.Proofs.Kernel.ImageBounds
import TensorRuntime.Proofs.Kernel.Safety.Lanes

/-!
What the kernels for images compute for one element, apart from where it is stored. A rule
sees the settings, the inputs, the record of the output and the derived state, but neither
the layout of the output nor a stored position.
-/

namespace TensorRuntime

open Attempt

inductive Element where
  | single (value : Single)
  | stored (value : Int)
  deriving DecidableEq

def ElementType.keep (elementType : ElementType) (value : Int) : Int :=
  match elementType with
  | .i8 => (Int8.ofInt value).toInt
  | .u8 => (UInt8.ofNat (value % 256).toNat).toNat
  | .i16 => (Int16.ofInt value).toInt
  | .i32 => (Int32.ofInt value).toInt
  | .f32 | .f16 | .bool => value

namespace Tensor

def elementAt? (tensor : Tensor) (position : Nat) : Option Element :=
  match tensor.buffer with
  | .f32 values => values[position]?.map .single
  | buffer => buffer.integers?.bind fun stored => stored[position]?.map .stored

/-- Every element of an image is where its order of axes puts it, and is what the rule gives. -/
def LaidOut (tensor : Tensor) (image : ImageDims) (rule : Pixel → Attempt Element) : Prop :=
  ∀ pixel, image.Holds pixel →
    ∃ element, rule pixel = .ok element ∧ tensor.elementAt? (image.index pixel) = some element

end Tensor

abbrev ElementRule :=
  Params → List Tensor → Option Quantization → Option Derived → Pixel → Attempt Element

section Rules

def convRule : ElementRule
  | .conv2d settings, input :: weights :: rest, _, derived, pixel => do
      let bias ← biasFor rest[0]? convRoutine
      let image ← ImageDims.ofTensor input
      let packed ← derivedOr (derived.bind Derived.convWeights?) do
        ConvWeights.pack (← weights.singlesFor convRoutine) weights.dims
      let values ← input.singlesFor convRoutine
      .single <$> convElement settings values image packed bias
        (weights.dims.headD 0 / settings.groups) pixel
  | _, _, _, _, _ => abort

def poolRule : ElementRule
  | .pool2d settings, input :: _, _, _, pixel => do
      let image ← ImageDims.ofTensor input
      let values ← input.singlesFor poolRoutine
      .single <$> poolElement settings values image pixel
  | _, _, _, _, _ => abort

def storedPoolRule (elementType : ElementType) : ElementRule
  | .pool2d settings, input :: _, some (.perTensor outAffine), _, pixel => do
      let affine ← input.affineFor storedPoolRoutine
      let image ← ImageDims.ofTensor input
      let stored ← input.storedFor elementType storedPoolRoutine
      let pooled ← storedPoolElement settings stored image affine outAffine
        (storedRange elementType) pixel
      return .stored (elementType.keep pooled)
  | _, _, _, _, _ => abort

def storedConvRule [Host] : ElementRule
  | .conv2d settings, input :: weights :: rest, some (.perTensor outAffine), _, pixel => do
      let affine ← input.affineFor storedConvRoutine
      let record ← weights.weightRecord storedConvRoutine
      let bias ← realBias rest[0]?
      let image ← ImageDims.ofTensor input
      match weights.dims with
      | outChannels :: inPerGroup :: kernelHeight :: kernelWidth :: _ =>
          let stored ← input.storedFor .i8 storedConvRoutine
          let storedWeights ← weights.storedFor .i8 storedConvRoutine
          let weightAffine ← record.affineOf pixel.channel
          let sum ← storedConvSum settings stored image affine.zeroPoint
            ⟨storedWeights, record, inPerGroup, kernelHeight, kernelWidth⟩ weightAffine.zeroPoint
            (pixel.channel / (outChannels / settings.groups)) pixel
          let real := Single.ofInt (sum.bmod (1 <<< 32)) * affine.scale * weightAffine.scale
          let shifted ← match bias with
            | some bias => (real + ·) <$> readAt bias pixel.channel
            | none => pure real
          return .stored (ElementType.i8.keep
            (outAffine.quantize (storedRange .i8) (settings.activation.apply shifted)))
      | _ => abort
  | _, _, _, _, _ => abort

def laneConvRule (lanes : Nat) : ElementRule
  | .conv2d settings, input :: weights :: rest, _, derived, pixel => do
      let bias ← biasFor rest[0]? laneConvRoutine
      let image ← channelsLastDims input laneConvRoutine
      let packed ← derivedOr (derived.bind Derived.laneConvWeights?) do
        LaneConvWeights.pack (← weights.singlesFor laneConvRoutine) weights.dims
      let values ← input.singlesFor laneConvRoutine
      let row ← laneConvRow lanes settings values image packed bias packed.outChannels pixel.batch
        pixel.row pixel.column
      .single <$> readAt row pixel.channel
  | _, _, _, _, _ => abort

def laneDepthwiseRule (lanes : Nat) : ElementRule
  | .conv2d settings, input :: weights :: rest, _, derived, pixel => do
      let bias ← biasFor rest[0]? laneDepthwiseRoutine
      let image ← channelsLastDims input laneDepthwiseRoutine
      let packed ← derivedOr (derived.bind Derived.laneDepthwiseWeights?) do
        LaneDepthwiseWeights.pack (← weights.singlesFor laneDepthwiseRoutine) weights.dims
      let values ← input.singlesFor laneDepthwiseRoutine
      let row ← laneDepthwiseRow lanes settings values image packed bias packed.channels
        pixel.batch pixel.row pixel.column
      .single <$> readAt row pixel.channel
  | _, _, _, _, _ => abort

def lanePoolRule (lanes : Nat) : ElementRule
  | .pool2d settings, input :: _, _, _, pixel => do
      let image ← channelsLastDims input lanePoolRoutine
      let values ← input.singlesFor lanePoolRoutine
      let row ← lanePoolRow lanes settings values image image.channels pixel.batch pixel.row
        pixel.column
      .single <$> readAt row pixel.channel
  | _, _, _, _, _ => abort

def acceleratorConvRule : ElementRule
  | .conv2d settings, input :: _, some (.perTensor outAffine), some (.stagedWeights staged),
      pixel => do
      let affine ← input.affineFor acceleratorConvRoutine
      let image ← ImageDims.ofTensor input
      let stored ← input.signedBytes (.unsupportedElementType input.elementType
        (acceleratorConvRoutine ++ " reads i8 activations"))
      let stage ← OutputStage.build staged affine.scale outAffine settings.activation
      let sum ← stagedConvSum settings stored image affine.zeroPoint staged
        (pixel.channel / (staged.outChannels / max settings.groups 1)) pixel
        (← readAt stage.biases pixel.channel)
      return .stored (ElementType.i8.keep (← stage.store pixel.channel sum))
  | _, _, _, _, _ => abort

end Rules

end TensorRuntime
