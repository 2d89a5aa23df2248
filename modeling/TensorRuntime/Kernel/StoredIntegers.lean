import TensorRuntime.Kernel.Elementwise
import TensorRuntime.Kernel.Pooling

/-! Kernels on stored integers: sums, activations and maximum pooling of quantized tensors, and
the convolution of signed bytes. -/

namespace TensorRuntime

def Tensor.storedSlots (output : Tensor) (elementType : ElementType) (routine : String) :
    Except Error Nat :=
  match output.elementType == elementType, output.buffer.integers? with
  | true, some old => .ok old.size
  | _, _ =>
      .error (.unsupportedElementType output.elementType
        (routine ++ " writes " ++ elementType.name))

def storedRange (elementType : ElementType) : Int × Int :=
  elementType.intRange?.getD (-2147483648, 2147483647)

def Affine.same (first second : Affine) : Bool :=
  first.scale == second.scale && first.zeroPoint == second.zeroPoint

def storedBinaryRoutine : String := "ref_add_quantized"

def storedBinaryBody (elementType : ElementType) (call : Call) : Attempt Tensor :=
  match call.params with
  | .binary op activation => do
      let first ← call.input 0 storedBinaryRoutine
      let second ← call.input 1 storedBinaryRoutine
      let firstAffine ← first.affineFor storedBinaryRoutine
      let secondAffine ← second.affineFor storedBinaryRoutine
      let output ← call.output storedBinaryRoutine
      let outAffine ← output.affineFor storedBinaryRoutine
      let firstStored ← first.storedFor elementType storedBinaryRoutine
      let secondStored ← second.storedFor elementType storedBinaryRoutine
      let firstStrides ← broadcastStrides first.dims output.dims
      let secondStrides ← broadcastStrides second.dims output.dims
      let slots ← output.storedSlots elementType storedBinaryRoutine
      let stored ← tabulate slots fun index => do
        let firstValue := firstAffine.dequantize
          (← readAt firstStored (← Shape.offsetOf output.dims firstStrides index))
        let secondValue := secondAffine.dequantize
          (← readAt secondStored (← Shape.offsetOf output.dims secondStrides index))
        return outAffine.quantize (storedRange elementType)
          (combine op activation firstValue secondValue)
      output.withStored stored
  | params => Attempt.refuse (params.mismatch storedBinaryRoutine)

def addBytesKernel : Kernel :=
  .ofBody "ref_add_i8" [.any] "ref_add_i8" none (storedBinaryBody .i8)

def addUnsignedBytesKernel : Kernel :=
  .ofBody "ref_add_u8" [.any] "ref_add_u8" none (storedBinaryBody .u8)

def storedActivationRoutine : String := "ref_relu_quantized"

/-- Applies an activation to stored integers; under equal records the rectifier is a maximum with
the zero point. -/
def storedActivationBody (elementType : ElementType) (call : Call) : Attempt Tensor :=
  match call.params with
  | .activation kind => do
      let input ← call.input 0 storedActivationRoutine
      let affine ← input.affineFor storedActivationRoutine
      let output ← call.output storedActivationRoutine
      let outAffine ← output.affineFor storedActivationRoutine
      let stored ← input.storedFor elementType storedActivationRoutine
      discard (output.storedSlots elementType storedActivationRoutine : Attempt Nat)
      let old := output.buffer.integers?.getD #[]
      let activated (value : Int) : Int :=
        if kind = .relu ∧ affine.same outAffine then max value affine.zeroPoint
        else outAffine.quantize (storedRange elementType) (kind.apply (affine.dequantize value))
      output.withStored
        (old.mapIdx fun index value => (stored[index]?.map activated).getD value)
  | params => Attempt.refuse (params.mismatch storedActivationRoutine)

def reluBytesKernel : Kernel :=
  .ofBody "ref_relu_i8" [.any] "ref_relu_i8" none (storedActivationBody .i8)

def reluUnsignedBytesKernel : Kernel :=
  .ofBody "ref_relu_u8" [.any] "ref_relu_u8" none (storedActivationBody .u8)

def storedPoolRoutine : String := "ref_max_pool_quantized"

def greatestOr (default : Int) : List Int → Int
  | [] => default
  | first :: rest => rest.foldl max first

/-- Pools stored integers. Scales are positive, so the greatest stored integer is the greatest
real value; a window with nothing to pool gives the zero point. -/
def storedPoolElement (params : PoolParams) (stored : Array Int) (image : ImageDims)
    (affine outAffine : Affine) (range : Int × Int) (pixel : Pixel) : Attempt Int := do
  let (rows, columns) := params.spans image pixel.row pixel.column
  let covered ← (windowPositions rows columns).mapM fun position =>
    readAt stored (image.index ⟨pixel.batch, pixel.channel, position.1, position.2⟩)
  let greatest := greatestOr affine.zeroPoint covered
  return if affine.same outAffine then greatest
    else outAffine.quantize range (affine.dequantize greatest)

def storedPoolBody (elementType : ElementType) (call : Call) : Attempt Tensor :=
  match call.params with
  | .pool2d params => do
      if params.mode ≠ .max then
        Attempt.refuse (.kernelFailure storedPoolRoutine
          "only max pooling runs on stored integers")
      let input ← call.input 0 storedPoolRoutine
      let affine ← input.affineFor storedPoolRoutine
      let image ← ImageDims.ofTensor input
      let output ← call.output storedPoolRoutine
      let outAffine ← output.affineFor storedPoolRoutine
      let outImage ← ImageDims.ofDims output.dims image.layout
      let stored ← input.storedFor elementType storedPoolRoutine
      let slots ← output.storedSlots elementType storedPoolRoutine
      let pooled ← tabulate slots fun index => do
        storedPoolElement params stored image affine outAffine (storedRange elementType)
          (← outImage.pixelAt index)
      output.withStored pooled
  | params => Attempt.refuse (params.mismatch storedPoolRoutine)

def maxPoolBytesKernel : Kernel :=
  .ofBody "ref_max_pool2d_i8" [.nchw, .nhwc] "ref_max_pool2d_i8" none (storedPoolBody .i8)

def maxPoolUnsignedBytesKernel : Kernel :=
  .ofBody "ref_max_pool2d_u8" [.nchw, .nhwc] "ref_max_pool2d_u8" none (storedPoolBody .u8)

def Tensor.weightRecord (weights : Tensor) (routine : String) : Except Error Quantization :=
  match weights.quantization with
  | none => .error (.kernelFailure routine "weights have no quantization record")
  | some record =>
      match record.axis? with
      | some (_ + 1) =>
          .error (.kernelFailure routine "per-channel weights must be quantized along axis 0")
      | _ => .ok record

structure StoredWeights where
  values : Array Int
  record : Quantization
  inPerGroup : Nat
  kernelHeight : Nat
  kernelWidth : Nat

def storedConvSum (params : ConvParams) (stored : Array Int) (image : ImageDims)
    (zeroPoint : Int) (weights : StoredWeights) (weightZero : Int) (group : Nat)
    (pixel : Pixel) : Attempt Int :=
  let taps := convTaps params weights.kernelHeight weights.kernelWidth image pixel.row pixel.column
  taps.foldlM (fun sum tap =>
    (List.range weights.inPerGroup).foldlM (fun sum channel => do
      let value ← readAt stored (image.index
        ⟨pixel.batch, group * weights.inPerGroup + channel, tap.row, tap.column⟩)
      let weight ← readAt weights.values
        (((pixel.channel * weights.inPerGroup + channel) * weights.kernelHeight +
          tap.kernelRow) * weights.kernelWidth + tap.kernelColumn)
      return sum + (value - zeroPoint) * (weight - weightZero)) sum) 0

def storedConvRoutine : String := "ref_conv2d_i8"

def storedConvBody [Host] (call : Call) : Attempt Tensor :=
  match call.params with
  | .conv2d params => do
      let input ← call.input 0 storedConvRoutine
      let weights ← call.input 1 storedConvRoutine
      let affine ← input.affineFor storedConvRoutine
      let record ← weights.weightRecord storedConvRoutine
      let bias ← realBias call.inputs[2]?
      let image ← ImageDims.ofTensor input
      match weights.dims with
      | _ :: inPerGroup :: kernelHeight :: kernelWidth :: _ =>
          let stored ← input.storedFor .i8 storedConvRoutine
          let storedWeights ← weights.storedFor .i8 storedConvRoutine
          let output ← call.output storedConvRoutine
          let outAffine ← output.affineFor storedConvRoutine
          let outImage ← ImageDims.ofDims output.dims image.layout
          nonzero params.groups
          let outPerGroup := outImage.channels / params.groups
          let slots ← output.storedSlots .i8 storedConvRoutine
          let source : StoredWeights :=
            ⟨storedWeights, record, inPerGroup, kernelHeight, kernelWidth⟩
          let convolved ← tabulate slots fun index => do
            let pixel ← outImage.pixelAt index
            nonzero outPerGroup
            let weightAffine ← record.affineOf pixel.channel
            let sum ← storedConvSum params stored image affine.zeroPoint source
              weightAffine.zeroPoint (pixel.channel / outPerGroup) pixel
            let real := Single.ofInt (sum.bmod (1 <<< 32)) * affine.scale * weightAffine.scale
            let shifted ← match bias with
              | some bias => (real + ·) <$> readAt bias pixel.channel
              | none => pure real
            return outAffine.quantize (storedRange .i8) (params.activation.apply shifted)
          output.withStored convolved
      | _ => Attempt.abort
  | params => Attempt.refuse (params.mismatch storedConvRoutine)

def convBytesKernel [Host] : Kernel :=
  .ofBody "ref_conv2d_i8" [.nchw, .nhwc] storedConvRoutine none storedConvBody

end TensorRuntime
