import TensorRuntime.Proofs.Kernel.Agreement
import TensorRuntime.Proofs.Kernel.ConvolutionReads
import TensorRuntime.Proofs.Kernel.ImageOrder
import TensorRuntime.Proofs.Refusals

/-!
The law of convolution in single precision. Whatever the layout and the geometry, the kernel writes
at each place of the output the sum of the formula, with the products added in the formula's order.
-/

namespace TensorRuntime

open Attempt

namespace ConvExtents

/-- The formula for one output pixel: products are added one by one to the bias of the channel, and
the activation is applied to their sum. -/
def convolved (extents : ConvExtents) (values kernel : Array Single)
    (bias : Option (Array Single)) (pixel : Pixel) : Single :=
  extents.settings.activation.apply
    ((extents.reads pixel).foldl
      (fun sum read => sum +
        elementAt values (extents.image.index (extents.source pixel read)) *
          elementAt kernel (extents.weightPlace pixel.channel read))
      (bias.elim 0 fun start => elementAt start pixel.channel))

variable {extents : ConvExtents} {values kernel : Array Single} {bias : Option (Array Single)}
  (size : values.size = extents.image.count) (kernelSize : kernel.size = extents.weightCount)
  (biasSize : ∀ start, bias = some start → start.size = extents.outChannels)

def packed (extents : ConvExtents) (kernel : Array Single) : ConvWeights :=
  .packed extents.outChannels extents.perGroup extents.kernelHeight extents.kernelWidth kernel

structure Operands (extents : ConvExtents) (input weights : Tensor) (rest : List Tensor)
    (values kernel : Array Single) (bias : Option (Array Single)) : Prop where
  valuesHeld : input.buffer = .f32 values
  kernelHeld : weights.buffer = .f32 kernel
  biasHeld : rest[0]?.map Tensor.buffer = bias.map .f32
  valuesSize : values.size = extents.image.count
  kernelSize : kernel.size = extents.weightCount
  biasSize : ∀ start, bias = some start → start.size = extents.outChannels

variable {extents : ConvExtents} {input weights output : Tensor} {rest : List Tensor}

theorem Describes.operands (describes : extents.Describes input weights rest output)
    (valid : ∀ tensor ∈ input :: weights :: rest, tensor.Valid)
    (singles : ∀ tensor ∈ input :: weights :: rest, tensor.elementType = .f32) :
    ∃ values kernel bias, extents.Operands input weights rest values kernel bias := by
  have held tensor (member : tensor ∈ input :: weights :: rest) :=
    (valid tensor member).singles (singles tensor member)
  obtain ⟨values, valuesHeld, valuesSize⟩ := held input (by simp)
  obtain ⟨kernel, kernelHeld, kernelSize⟩ := held weights (by simp)
  rw [describes.input_count] at valuesSize
  rw [describes.weights_count] at kernelSize
  obtain ⟨bias, biasHeld, biasSize⟩ := exists_biasHeld
    (fun start found => valid start (by simp [List.mem_of_getElem? found]))
    (fun start found => singles start (by simp [List.mem_of_getElem? found])) describes.bias
  exact ⟨values, kernel, bias, valuesHeld, kernelHeld, biasHeld, valuesSize, kernelSize, biasSize⟩

variable {values kernel : Array Single} {bias : Option (Array Single)} {derived : Option Derived}

theorem Operands.pack_eq (operands : extents.Operands input weights rest values kernel bias)
    (describes : extents.Describes input weights rest output) (routine : String) :
    (do ConvWeights.pack (← liftM (weights.singlesFor routine)) weights.dims) =
      .ok (extents.packed kernel) := by
  rw [Tensor.singlesFor_eq operands.kernelHeld, describes.kernel]
  exact ConvWeights.pack_eq operands.kernelSize

theorem Operands.hook_eq (operands : extents.Operands input weights rest values kernel bias)
    (describes : extents.Describes input weights rest output) :
    packConvWeights (.conv2d extents.settings) (input :: weights :: rest) =
      .ok (some (.convWeights (extents.packed kernel))) := by
  refine bind_eq_ok.2 ⟨weights, rfl, ?_⟩
  rw [Tensor.singlesFor_eq operands.kernelHeld, describes.kernel]
  exact bind_eq_ok.2 ⟨kernel, rfl,
    bind_eq_ok.2 ⟨_, ConvWeights.pack_eq operands.kernelSize, rfl⟩⟩

end ConvExtents

end TensorRuntime
