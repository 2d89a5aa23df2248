import TensorRuntime.Proofs.InPlace.Images

/-!
Kernels on stored integers in place, and those of the accelerator.
-/

namespace TensorRuntime

open Attempt

namespace InPlace

def storedBinary (elementType : ElementType) (call : Call) : InPlace Unit :=
  match call.params with
  | .binary op activation => do
      let first ← call.input 0 storedBinaryRoutine
      let second ← call.input 1 storedBinaryRoutine
      let firstAffine ← first.affineFor storedBinaryRoutine
      let secondAffine ← second.affineFor storedBinaryRoutine
      let output ← call.output storedBinaryRoutine
      let outAffine ← output.affineFor storedBinaryRoutine
      let firstStored ← first.storedFor elementType storedBinaryRoutine
      let secondStored ← second.storedFor elementType storedBinaryRoutine
      let firstStrides ← broadcastStrides first.dims output.dims
      let secondStrides ← broadcastStrides second.dims output.dims
      let slots ← output.storedSlots elementType storedBinaryRoutine
      fillIntegers elementType slots fun index => do
        let firstValue := firstAffine.dequantize
          (← readAt firstStored (← Shape.offsetOf output.dims firstStrides index))
        let secondValue := secondAffine.dequantize
          (← readAt secondStored (← Shape.offsetOf output.dims secondStrides index))
        return outAffine.quantize (storedRange elementType)
          (TensorRuntime.combine op activation firstValue secondValue)
  | params => refuse (params.mismatch storedBinaryRoutine)

def storedActivation (elementType : ElementType) (call : Call) : InPlace Unit :=
  match call.params with
  | .activation kind => do
      let input ← call.input 0 storedActivationRoutine
      let affine ← input.affineFor storedActivationRoutine
      let output ← call.output storedActivationRoutine
      let outAffine ← output.affineFor storedActivationRoutine
      let stored ← input.storedFor elementType storedActivationRoutine
      let slots ← output.storedSlots elementType storedActivationRoutine
      let old := output.buffer.integers?.getD #[]
      let activated (value : Int) : Int :=
        if kind = .relu ∧ affine.same outAffine then max value affine.zeroPoint
        else outAffine.quantize (storedRange elementType) (kind.apply (affine.dequantize value))
      fillIntegers elementType slots fun index => do
        return (stored[index]?.map activated).getD (← readAt old index)
  | params => refuse (params.mismatch storedActivationRoutine)

def storedPool (elementType : ElementType) (call : Call) : InPlace Unit :=
  match call.params with
  | .pool2d params => do
      if params.mode ≠ .max then
        refuse (.kernelFailure storedPoolRoutine "only max pooling runs on stored integers")
      let input ← call.input 0 storedPoolRoutine
      let affine ← input.affineFor storedPoolRoutine
      let image ← ImageDims.ofTensor input
      let output ← call.output storedPoolRoutine
      let outAffine ← output.affineFor storedPoolRoutine
      let outImage ← ImageDims.ofDims output.dims image.layout
      let stored ← input.storedFor elementType storedPoolRoutine
      let slots ← output.storedSlots elementType storedPoolRoutine
      fillIntegers elementType slots fun index => do
        storedPoolElement params stored image affine outAffine (storedRange elementType)
          (← outImage.pixelAt index)
  | params => refuse (params.mismatch storedPoolRoutine)

def storedConv [Host] (call : Call) : InPlace Unit :=
  match call.params with
  | .conv2d params => do
      let input ← call.input 0 storedConvRoutine
      let weights ← call.input 1 storedConvRoutine
      let affine ← input.affineFor storedConvRoutine
      let record ← weights.weightRecord storedConvRoutine
      let bias ← realBias call.inputs[2]?
      let image ← ImageDims.ofTensor input
      match weights.dims with
      | _ :: inPerGroup :: kernelHeight :: kernelWidth :: _ => do
          let stored ← input.storedFor .i8 storedConvRoutine
          let storedWeights ← weights.storedFor .i8 storedConvRoutine
          let output ← call.output storedConvRoutine
          let outAffine ← output.affineFor storedConvRoutine
          let outImage ← ImageDims.ofDims output.dims image.layout
          nonzero params.groups
          let outPerGroup := outImage.channels / params.groups
          let slots ← output.storedSlots .i8 storedConvRoutine
          let source : StoredWeights :=
            ⟨storedWeights, record, inPerGroup, kernelHeight, kernelWidth⟩
          fillIntegers .i8 slots fun index => do
            let pixel ← outImage.pixelAt index
            nonzero outPerGroup
            let weightAffine ← record.affineOf pixel.channel
            let sum ← storedConvSum params stored image affine.zeroPoint source
              weightAffine.zeroPoint (pixel.channel / outPerGroup) pixel
            let real := Single.ofInt (sum.bmod (1 <<< 32)) * affine.scale * weightAffine.scale
            let shifted ← match bias with
              | some bias => (real + ·) <$> readAt bias pixel.channel
              | none => pure real
            return outAffine.quantize (storedRange .i8) (params.activation.apply shifted)
      | _ => abort
  | params => refuse (params.mismatch storedConvRoutine)

def acceleratorConv (staged : StagedWeights) (call : Call) : InPlace Unit :=
  match call.params with
  | .conv2d params => do
      let input ← call.input 0 acceleratorConvRoutine
      let affine ← input.affineFor acceleratorConvRoutine
      let image ← ImageDims.ofTensor input
      if !image.channelsLast then
        refuse (.unsupportedLayout input.layout
          (acceleratorConvRoutine ++ " reads nhwc activations"))
      let stored ← input.signedBytes (.unsupportedElementType input.elementType
        (acceleratorConvRoutine ++ " reads i8 activations"))
      let output ← call.output acceleratorConvRoutine
      let outAffine ← output.affineFor acceleratorConvRoutine
      let outImage ← ImageDims.ofDims output.dims .nhwc
      let stage ← OutputStage.build staged affine.scale outAffine params.activation
      let outPerGroup := staged.outChannels / max params.groups 1
      let old ← output.signedBytes (.kernelFailure acceleratorConvRoutine "output buffer is not i8")
      nonzero staged.outChannels
      fillIntegers .i8 old.size fun index => do
        let outChannel := index % staged.outChannels
        let position := index / staged.outChannels
        nonzero outImage.width
        nonzero outImage.height
        let pixel : Pixel :=
          ⟨position / (outImage.width * outImage.height), outChannel,
            position / outImage.width % outImage.height, position % outImage.width⟩
        nonzero outPerGroup
        let sum ← stagedConvSum params stored image affine.zeroPoint staged
          (outChannel / outPerGroup) pixel (← readAt stage.biases outChannel)
        stage.store outChannel sum
  | params => refuse (params.mismatch acceleratorConvRoutine)

def acceleratorFullyConnected (staged : StagedWeights) (call : Call) : InPlace Unit :=
  match call.params with
  | .fullyConnected activation => do
      let input ← call.input 0 acceleratorFullyConnectedRoutine
      let affine ← input.affineFor acceleratorFullyConnectedRoutine
      let stored ← input.signedBytes (.unsupportedElementType input.elementType
        (acceleratorFullyConnectedRoutine ++ " reads i8 activations"))
      let output ← call.output acceleratorFullyConnectedRoutine
      let outAffine ← output.affineFor acceleratorFullyConnectedRoutine
      let stage ← OutputStage.build staged affine.scale outAffine activation
      let old ← output.signedBytes
        (.kernelFailure acceleratorFullyConnectedRoutine "output buffer is not i8")
      nonzero staged.outChannels
      fillIntegers .i8 old.size fun index => do
        let column := index % staged.outChannels
        let inputs ← readRun stored (index / staged.outChannels * staged.inPerGroup)
          staged.inPerGroup
        let weights ← staged.taps column 0 0
        let total := (inputs.zip weights).foldl
          (fun sum entry => sum + (entry.1 - affine.zeroPoint) * entry.2)
          (← readAt stage.biases column)
        stage.store column (Requantizer.wrap64 total)
  | params => refuse (params.mismatch acceleratorFullyConnectedRoutine)

def onStaged (routine : String) (run : StagedWeights → Call → InPlace Unit) (call : Call) :
    InPlace Unit :=
  match call.derived.bind Derived.stagedWeights? with
  | some staged => run staged call
  | none => refuse (.kernelFailure routine "weights were not staged")

section Elements

variable (params : ConvParams) (stored : Array Int) (image : ImageDims)

theorem unrefused_stagedConvSum (zeroPoint : Int) (staged : StagedWeights) (group : Nat)
    (pixel : Pixel) (start : Int) :
    (stagedConvSum params stored image zeroPoint staged group pixel start).Unrefused := by
  refine FailsOnly.bind (failsOnly_foldlM fun tap _ sum => ?_) fun _ _ => failsOnly_pure _
  exact (unrefused_readRun _ _ _).bind fun _ _ => (unrefused_readRun _ _ _).bind fun _ _ =>
    failsOnly_pure _

theorem unrefused_store (stage : OutputStage) (outChannel : Nat) (sum : Int) :
    (stage.store outChannel sum).Unrefused := by
  refine (unrefused_readAt _ _).bind fun _ _ => ?_
  exact failsOnly_check (fun _ => rfl) fun _ => failsOnly_pure _

end Elements

theorem discard_bind {α β : Type} {first : Attempt α} {rest : PUnit → Attempt β} :
    discard first >>= rest = first >>= fun _ => rest () := by
  cases first <;> rfl

section Performing

variable {params : Params} {inputs : List Tensor} {output : Tensor} {derived : Option Derived}
  {elementType : ElementType} {staged : StagedWeights}

theorem slots_of_storedSlots {routine : String} {slots : Nat}
    (found : output.storedSlots elementType routine = .ok slots) :
    output.elementType = elementType ∧
      ∃ old, output.buffer.integers? = some old ∧ slots = old.size := by
  unfold Tensor.storedSlots at found
  split at found
  · rename_i old same held
    cases found
    exact ⟨by simpa using same, old, held, rfl⟩
  · cases found

theorem performs_storedBinary :
    (storedBinary elementType ⟨params, inputs, [output], derived⟩).Performs output
      (storedBinaryBody elementType ⟨params, inputs, [output], derived⟩) := by
  cases params with
  | binary op activation =>
      refine performs_checked fun first _ => performs_checked fun second _ =>
        performs_checked fun _ _ => performs_checked fun _ _ =>
        performs_checked fun written found => ?_
      obtain rfl := output_of_output found
      refine performs_checked fun _ _ => performs_checked fun _ _ => performs_checked fun _ _ =>
        performs_check fun _ _ => performs_check fun _ _ => performs_checked fun slots counted => ?_
      obtain ⟨rfl, old, held, rfl⟩ := slots_of_storedSlots counted
      refine performs_fillIntegers held fun index => ?_
      exact (Shape.unrefused_offsetOf _ _ _).bind fun _ _ => (unrefused_readAt _ _).bind fun _ _ =>
        (Shape.unrefused_offsetOf _ _ _).bind fun _ _ => (unrefused_readAt _ _).bind fun _ _ =>
          failsOnly_pure _
  | _ => exact performs_error _

theorem performs_storedActivation :
    (storedActivation elementType ⟨params, inputs, [output], derived⟩).Performs output
      (storedActivationBody elementType ⟨params, inputs, [output], derived⟩) := by
  cases params with
  | activation kind =>
      refine performs_checked fun input _ => performs_checked fun affine _ =>
        performs_checked fun written found => ?_
      obtain rfl := output_of_output found
      refine performs_checked fun outAffine _ => performs_checked fun stored _ => ?_
      rw [discard_bind]
      refine performs_checked fun slots counted => ?_
      obtain ⟨rfl, old, held, rfl⟩ := slots_of_storedSlots counted
      rw [held]
      exact performs_mapIntegers held _
  | _ => exact performs_error _

theorem performs_storedPool :
    (storedPool elementType ⟨params, inputs, [output], derived⟩).Performs output
      (storedPoolBody elementType ⟨params, inputs, [output], derived⟩) := by
  cases params with
  | pool2d settings =>
      refine performs_guard fun _ => performs_checked fun input _ =>
        performs_checked fun affine _ => performs_checked fun image _ =>
        performs_checked fun written found => ?_
      obtain rfl := output_of_output found
      refine performs_checked fun outAffine _ => performs_checked fun outImage _ =>
        performs_checked fun stored _ => performs_checked fun slots counted => ?_
      obtain ⟨rfl, old, held, rfl⟩ := slots_of_storedSlots counted
      refine performs_fillIntegers held fun index => ?_
      exact (outImage.unrefused_pixelAt _).bind fun _ _ => unrefused_storedPoolElement _ _ _ _ _ _ _
  | _ => exact performs_error _

theorem performs_storedConv [Host] :
    (storedConv ⟨params, inputs, [output], derived⟩).Performs output
    (storedConvBody ⟨params, inputs, [output], derived⟩) := by
  cases params with
  | conv2d settings =>
      refine performs_checked fun input _ => performs_checked fun weights _ =>
        performs_checked fun affine _ => performs_checked fun record _ =>
        performs_check fun bias _ => performs_checked fun image _ => ?_
      dsimp only
      rcases weights.dims with _ | ⟨_, _ | ⟨inPerGroup, _ | ⟨kernelHeight, _ | ⟨kernelWidth, _⟩⟩⟩⟩
      iterate 4 exact performs_error _
      refine performs_checked fun stored _ => performs_checked fun storedWeights _ =>
        performs_checked fun written found => ?_
      obtain rfl := output_of_output found
      refine performs_checked fun outAffine _ => performs_checked fun outImage _ =>
        performs_check fun _ _ => performs_checked fun slots counted => ?_
      obtain ⟨signed, old, held, rfl⟩ := slots_of_storedSlots counted
      rw [← signed]
      refine performs_fillIntegers held fun index => ?_
      refine (outImage.unrefused_pixelAt _).bind fun _ _ => (unrefused_nonzero _).bind fun _ _ =>
        (record.unrefused_affineOf _).bind fun _ _ =>
          (unrefused_storedConvSum _ _ _ _ _ _ _ _).bind fun _ _ => ?_
      split
      · exact ((unrefused_readAt _ _).map _).bind fun _ _ => failsOnly_pure _
      · exact failsOnly_pure _
  | _ => exact performs_error _

theorem performs_acceleratorConv :
    (acceleratorConv staged ⟨params, inputs, [output], derived⟩).Performs output
      (acceleratorConvBody staged ⟨params, inputs, [output], derived⟩) := by
  cases params with
  | conv2d settings =>
      refine performs_checked fun input _ => performs_checked fun affine _ =>
        performs_checked fun image _ => performs_guard fun _ => performs_checked fun stored _ =>
        performs_checked fun written found => ?_
      obtain rfl := output_of_output found
      refine performs_checked fun outAffine _ => performs_checked fun outImage _ =>
        performs_check fun stage _ => performs_checked fun old held => performs_check fun _ _ => ?_
      rw [← elementType_of_signedBytes held]
      refine performs_fillIntegers (signedBytes_eq_ok held) fun index => ?_
      exact (unrefused_nonzero _).bind fun _ _ => (unrefused_nonzero _).bind fun _ _ =>
        (unrefused_nonzero _).bind fun _ _ => (unrefused_readAt _ _).bind fun _ _ =>
          (unrefused_stagedConvSum _ _ _ _ _ _ _ _).bind fun _ _ => unrefused_store _ _ _
  | _ => exact performs_error _

theorem performs_acceleratorFullyConnected :
    (acceleratorFullyConnected staged ⟨params, inputs, [output], derived⟩).Performs output
      (acceleratorFullyConnectedBody staged ⟨params, inputs, [output], derived⟩) := by
  cases params with
  | fullyConnected activation =>
      refine performs_checked fun input _ => performs_checked fun affine _ =>
        performs_checked fun stored _ => performs_checked fun written found => ?_
      obtain rfl := output_of_output found
      refine performs_checked fun outAffine _ => performs_check fun stage _ =>
        performs_checked fun old held => performs_check fun _ _ => ?_
      rw [← elementType_of_signedBytes held]
      refine performs_fillIntegers (signedBytes_eq_ok held) fun index => ?_
      exact (unrefused_readRun _ _ _).bind fun _ _ => (unrefused_readRun _ _ _).bind fun _ _ =>
        (unrefused_readAt _ _).bind fun _ _ => unrefused_store _ _ _
  | _ => exact performs_error _

theorem performs_onStaged {routine : String} {run : StagedWeights → Call → InPlace Unit}
    {body : StagedWeights → Call → Attempt Tensor}
    (performs : ∀ staged, (run staged ⟨params, inputs, [output], derived⟩).Performs output
      (body staged ⟨params, inputs, [output], derived⟩)) :
    (onStaged routine run ⟨params, inputs, [output], derived⟩).Performs output
      (withStaged routine body ⟨params, inputs, [output], derived⟩) := by
  unfold onStaged withStaged
  dsimp only
  cases derived.bind Derived.stagedWeights? with
  | some staged => exact performs staged
  | none => exact performs_error _

end Performing

end InPlace

end TensorRuntime
