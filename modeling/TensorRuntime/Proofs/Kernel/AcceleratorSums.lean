import TensorRuntime.Proofs.Kernel.ImageOrder
import TensorRuntime.Proofs.Kernel.Staging
import TensorRuntime.Proofs.Numeric.Requantizer
import TensorRuntime.Proofs.Refusals

/-!
The sums of the accelerator. From weights that were centred and packed it computes exactly what the
plain loops compute from the weights as they are stored, and each stored output is that sum with
the bias, scaled and clamped, in words of 64 bits.
-/

namespace TensorRuntime

open Attempt

open Requantizer (wrap64)

section Written

end Written

section Sums

/-- Every partial sum is held by a word of 64 bits. -/
def Accumulates (start : Int) (products : List Int) : Prop :=
  ∀ count, InWord (start + (products.take count).sum)

namespace ConvExtents

/-- The places of the inputs and of the weights as they are stored, for all that a convolution reads
for one output pixel. -/
def places (extents : ConvExtents) (pixel : Pixel) : List (Nat × Nat) :=
  (extents.reads pixel).map fun read =>
    (extents.image.index (extents.source pixel read), extents.weightPlace pixel.channel read)

variable {extents : ConvExtents} {stored kernel : Array Int} {record : Quantization}
  {starts : Option (Array Single)} {staged : StagedWeights} {affine : Affine} {pixel : Pixel}

end ConvExtents

end Sums

section Stored

def roundedStart (starts : Option (Array Single)) (inputScale weightScale : Single)
    (channel : Nat) : Int :=
  starts.elim 0 fun start =>
    let unit := inputScale.toFloat * weightScale.toFloat
    if 0 < unit then StagedWeights.roundedBias ((elementAt start channel).toFloat / unit) else 0

def channelRequantizer (inputScale weightScale outputScale : Single) : Requantizer :=
  .ofRatio (inputScale.toFloat * weightScale.toFloat / outputScale.toFloat)

def acceleratorStored (activation : FusedActivation) (affine weightAffine outAffine : Affine)
    (starts : Option (Array Single)) (channel : Nat) (sum : Int) : Int :=
  let bounds := activationBounds activation outAffine
  let start := roundedStart starts affine.scale weightAffine.scale channel
  let requantizer := channelRequantizer affine.scale weightAffine.scale outAffine.scale
  max bounds.1
    (min bounds.2 (wrap64 (requantizer.apply (wrap64 (start + sum)) + outAffine.zeroPoint)))

variable {staged : StagedWeights} {kernel : Array Int} {record : Quantization}
  {starts : Option (Array Single)} {outs ins height width : Nat}

theorem StagedWeights.Centres.scale_eq
    (centres : staged.Centres kernel record starts outs ins height width) {channel : Nat}
    (bound : channel < outs) {weightAffine : Affine}
    (paired : record.affineOf channel = .ok weightAffine) :
    staged.scales[channel]? = some weightAffine.scale := by
  obtain ⟨own, found, scale, _⟩ := centres.paired channel bound
  cases paired.symm.trans found
  exact scale

theorem StagedWeights.Centres.biases_eq
    (centres : staged.Centres kernel record starts outs ins height width) (inputScale : Single) :
    staged.biases inputScale = .ok (arrayOf outs fun channel =>
      roundedStart starts inputScale (elementAt staged.scales channel) channel) := by
  unfold biases
  rw [centres.outChannels]
  apply tabulate_of_ok
  intro channel bound
  have scaleBound : channel < staged.scales.size := centres.scales ▸ bound
  have biasBound := centres.bias
  rw [centres.starts_eq] at biasBound ⊢
  cases starts with
  | none => rfl
  | some start =>
      refine bind_eq_ok.2 ⟨_, readAt_elementAt scaleBound, ?_⟩
      unfold roundedStart
      dsimp only [Option.elim]
      split
      · exact bind_eq_ok.2 ⟨_, readAt_elementAt (biasBound start rfl ▸ bound), rfl⟩
      · rfl

def OutputStage.Serves (stage : OutputStage) (outs : Nat) (activation : FusedActivation)
    (affine : Affine) (record : Quantization) (outAffine : Affine)
    (starts : Option (Array Single)) : Prop :=
  ∀ channel < outs, ∀ weightAffine, record.affineOf channel = .ok weightAffine →
    ∃ start, readAt stage.biases channel = .ok start ∧
      ∀ sum, stage.store channel (wrap64 (start + sum)) =
        .ok (acceleratorStored activation affine weightAffine outAffine starts channel sum)

theorem StagedWeights.Centres.exists_stage
    (centres : staged.Centres kernel record starts outs ins height width) {outAffine : Affine}
    (checked : outAffine.check .i8 (-128, 127) = .ok ()) (affine : Affine)
    (activation : FusedActivation) :
    ∃ stage, OutputStage.build staged affine.scale outAffine activation = .ok stage ∧
      stage.Serves outs activation affine record outAffine starts := by
  refine ⟨_, bind_eq_ok.2 ⟨_, centres.biases_eq affine.scale, rfl⟩, ?_⟩
  intro channel bound weightAffine paired
  have scale := centres.scale_eq bound paired
  have same : elementAt staged.scales channel = weightAffine.scale := by
    simp [elementAt, Array.getD_eq_getD_getElem?, scale]
  have held : (staged.requantizers affine.scale outAffine.scale)[channel]? =
      some (channelRequantizer affine.scale weightAffine.scale outAffine.scale) := by
    unfold requantizers
    rw [Array.getElem?_map, scale]
    rfl
  refine ⟨_, readAt_arrayOf _ bound, fun sum => ?_⟩
  rw [same, OutputStage.store_eq held (activationBounds_ordered checked activation)]
  rfl

end Stored

/-- Valid tensors of signed bytes, with one pair for the input and one for the output, and with
weights whose record has one pair or one for each output channel. -/
structure ByteCall (input weights : Tensor) (rest : List Tensor) (output : Tensor)
    (affine : Affine) (record : Quantization) (outAffine : Affine) : Prop where
  valid : ∀ tensor ∈ output :: input :: weights :: rest, tensor.Valid
  inputBytes : input.elementType = .i8
  weightBytes : weights.elementType = .i8
  outputBytes : output.elementType = .i8
  inputRecord : input.quantization = some (.perTensor affine)
  weightRecord : weights.quantization = some record
  outermost : ∀ axis, record.axis? = some axis → axis = 0
  outputRecord : output.quantization = some (.perTensor outAffine)

section Bodies

variable {input weights output : Tensor} {rest : List Tensor} {affine outAffine : Affine}
  {stored kernel : Array Int} {record : Quantization} {starts : Option (Array Single)}
  {staged : StagedWeights} {derived : Option Derived}

theorem ByteCall.checked (call : ByteCall input weights rest output affine record outAffine) :
    outAffine.check .i8 (-128, 127) = .ok () :=
  (call.valid output (by simp)).check_of_affineFor call.outputBytes
    (Tensor.affineFor_eq call.outputRecord acceleratorConvRoutine)

section Elements

variable {extents : ConvExtents} {stage : OutputStage} {pixel : Pixel} {weightAffine : Affine}

end Elements

end Bodies

end TensorRuntime
