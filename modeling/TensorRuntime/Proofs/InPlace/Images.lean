import TensorRuntime.Proofs.InPlace.Storing
import TensorRuntime.Proofs.Kernel.Frames
import TensorRuntime.Proofs.Kernel.Progress.Loops

/-!
The kernels on images in place. A convolution or a pooling overwrites its output element by element,
or, with the channels last, row by row.
-/

namespace TensorRuntime

open Attempt

namespace InPlace

section Outputs

variable {params : Params} {inputs : List Tensor} {output written : Tensor}
  {derived : Option Derived} {routine : String}

theorem output_of_output
    (found : Call.output ⟨params, inputs, [output], derived⟩ routine = .ok written) :
    written = output := by
  have first := Call.output_eq_ok.1 found
  cases first
  rfl

theorem output_of_singleOutput {old : Array Single}
    (found : Call.singleOutput ⟨params, inputs, [output], derived⟩ routine = .ok (written, old)) :
    written = output ∧ output.buffer = .f32 old := by
  obtain ⟨first, held⟩ := Call.singleOutput_eq_ok.1 found
  cases first
  exact ⟨rfl, held⟩

end Outputs

def conv (call : Call) : InPlace Unit :=
  match call.params with
  | .conv2d params => do
      let input ← call.input 0 convRoutine
      let weights ← call.input 1 convRoutine
      let bias ← biasFor call.inputs[2]? convRoutine
      let image ← ImageDims.ofTensor input
      let packed ← derivedOr (call.derived.bind Derived.convWeights?) do
        ConvWeights.pack (← weights.singlesFor convRoutine) weights.dims
      let values ← input.singlesFor convRoutine
      let outImage ← ImageDims.ofDims (← call.output convRoutine).dims image.layout
      let (_, old) ← call.singleOutput convRoutine
      nonzero params.groups
      let outPerGroup := outImage.channels / params.groups
      fill .f32 old.size fun index => do
        convElement params values image packed bias outPerGroup (← outImage.pixelAt index)
  | params => refuse (params.mismatch convRoutine)

def pool (call : Call) : InPlace Unit :=
  match call.params with
  | .pool2d params => do
      let input ← call.input 0 poolRoutine
      let image ← ImageDims.ofTensor input
      let outImage ← ImageDims.ofDims (← call.output poolRoutine).dims image.layout
      let values ← input.singlesFor poolRoutine
      let (_, old) ← call.singleOutput poolRoutine
      fill .f32 old.size fun index => do
        poolElement params values image (← outImage.pixelAt index)
  | params => refuse (params.mismatch poolRoutine)

def rowAtPixel (image : ImageDims) (rowAt : Nat → Nat → Nat → Nat → Attempt Row)
    (size pixel : Nat) : Attempt Row := do
  nonzero image.width
  nonzero image.height
  rowAt size (pixel / (image.width * image.height)) (pixel / image.width % image.height)
    (pixel % image.width)

def overwriteRows (width : Nat) (image : ImageDims) (size : Nat)
    (rowAt : Nat → Nat → Nat → Nat → Attempt Row) : InPlace Unit := do
  nonzero width
  sweep .f32 (List.range ((size + width - 1) / width)) fun written pixel => do
    writeRun written (pixel * width)
      (← rowAtPixel image rowAt (min width (size - pixel * width)) pixel)

def laneConv (lanes : Nat) (call : Call) : InPlace Unit :=
  match call.params with
  | .conv2d params => do
      if params.groups ≠ 1 then
        refuse (.kernelFailure laneConvRoutine
          ("dense kernel called with " ++ params.groups.repr ++ " groups"))
      let input ← call.input 0 laneConvRoutine
      let weights ← call.input 1 laneConvRoutine
      let bias ← biasFor call.inputs[2]? laneConvRoutine
      let image ← channelsLastDims input laneConvRoutine
      let packed ← derivedOr (call.derived.bind Derived.laneConvWeights?) do
        LaneConvWeights.pack (← weights.singlesFor laneConvRoutine) weights.dims
      let outImage ← ImageDims.ofDims (← call.output laneConvRoutine).dims .nhwc
      let values ← input.singlesFor laneConvRoutine
      let (_, old) ← call.singleOutput laneConvRoutine
      overwriteRows packed.outChannels outImage old.size
        (laneConvRow lanes params values image packed bias)
  | params => refuse (params.mismatch laneConvRoutine)

def laneDepthwise (lanes : Nat) (call : Call) : InPlace Unit :=
  match call.params with
  | .conv2d params => do
      let input ← call.input 0 laneDepthwiseRoutine
      let weights ← call.input 1 laneDepthwiseRoutine
      let bias ← biasFor call.inputs[2]? laneDepthwiseRoutine
      let image ← channelsLastDims input laneDepthwiseRoutine
      let packed ← derivedOr (call.derived.bind Derived.laneDepthwiseWeights?) do
        LaneDepthwiseWeights.pack (← weights.singlesFor laneDepthwiseRoutine) weights.dims
      let outImage ← ImageDims.ofDims (← call.output laneDepthwiseRoutine).dims .nhwc
      let values ← input.singlesFor laneDepthwiseRoutine
      let (_, old) ← call.singleOutput laneDepthwiseRoutine
      overwriteRows packed.channels outImage old.size
        (laneDepthwiseRow lanes params values image packed bias)
  | params => refuse (params.mismatch laneDepthwiseRoutine)

def lanePool (lanes : Nat) (call : Call) : InPlace Unit :=
  match call.params with
  | .pool2d params => do
      let input ← call.input 0 lanePoolRoutine
      let image ← channelsLastDims input lanePoolRoutine
      let outImage ← ImageDims.ofDims (← call.output lanePoolRoutine).dims .nhwc
      let values ← input.singlesFor lanePoolRoutine
      let (_, old) ← call.singleOutput lanePoolRoutine
      overwriteRows image.channels outImage old.size (lanePoolRow lanes params values image)
  | params => refuse (params.mismatch lanePoolRoutine)

theorem fills_overwriteRows {width : Nat} {image : ImageDims} {old : Array Single}
    {rowAt : Nat → Nat → Nat → Nat → Attempt Row}
    (unrefused : ∀ size batch row column, (rowAt size batch row column).Unrefused)
    (sized : ∀ size batch row column made, rowAt size batch row column = .ok made →
      made.size = size) :
    (overwriteRows width image old.size rowAt).Fills (Buffer.Form.f32.wrap old)
      (Buffer.Form.f32.wrap <$> tabulateRows width image old rowAt) := by
  unfold overwriteRows tabulateRows
  refine wrap_check (unrefused_nonzero _) fun _ wide => ?_
  have rows := @foldlM_writeRun _ width (rowAtPixel image rowAt) (pos_of_nonzero wide) old
    fun size pixel made done => by
      simp only [rowAtPixel, bind_eq_ok] at done
      obtain ⟨_, _, _, _, done⟩ := done
      exact sized _ _ _ _ _ done
  refine cast (congrArg _ (congrArg _ rows)) (fills_sweep (fun pixel _ written => ?_) old)
  exact ((unrefused_nonzero _).bind fun _ _ => (unrefused_nonzero _).bind fun _ _ =>
    unrefused _ _ _ _).bind fun _ _ => unrefused_writeRun _ _ _

section Performing

variable {params : Params} {inputs : List Tensor} {output : Tensor} {derived : Option Derived}
  {lanes : Nat}

theorem performs_conv : (conv ⟨params, inputs, [output], derived⟩).Performs output
    (convBody ⟨params, inputs, [output], derived⟩) := by
  cases params with
  | conv2d settings =>
      refine performs_checked fun input _ => performs_checked fun weights _ =>
        performs_checked fun bias _ => performs_checked fun image _ =>
        performs_check fun packed _ => performs_checked fun values _ =>
        performs_checked fun target _ => performs_checked fun outImage _ => performs_checked ?_
      rintro ⟨written, old⟩ found
      obtain ⟨rfl, held⟩ := output_of_singleOutput found
      refine performs_check fun _ _ => Fills.performs_singles (fills_fill fun index => ?_) held
      exact (outImage.unrefused_pixelAt _).bind fun _ _ => unrefused_convElement _ _ _ _ _ _ _
  | _ => exact performs_error _

theorem performs_pool : (pool ⟨params, inputs, [output], derived⟩).Performs output
    (poolBody ⟨params, inputs, [output], derived⟩) := by
  cases params with
  | pool2d settings =>
      refine performs_checked fun input _ => performs_checked fun image _ =>
        performs_checked fun target _ => performs_checked fun outImage _ =>
        performs_checked fun values _ => performs_checked ?_
      rintro ⟨written, old⟩ found
      obtain ⟨rfl, held⟩ := output_of_singleOutput found
      refine Fills.performs_singles (fills_fill fun index => ?_) held
      exact (outImage.unrefused_pixelAt _).bind fun _ _ => unrefused_poolElement _ _ _ _
  | _ => exact performs_error _

theorem performs_laneConv : (laneConv lanes ⟨params, inputs, [output], derived⟩).Performs output
    (laneConvBody lanes ⟨params, inputs, [output], derived⟩) := by
  cases params with
  | conv2d settings =>
      refine performs_guard fun _ => performs_checked fun input _ =>
        performs_checked fun weights _ => performs_checked fun bias _ =>
        performs_checked fun image _ => performs_check fun packed _ =>
        performs_checked fun target _ => performs_checked fun outImage _ =>
        performs_checked fun values _ => performs_checked ?_
      rintro ⟨written, old⟩ found
      obtain ⟨rfl, held⟩ := output_of_singleOutput found
      exact (fills_overwriteRows (fun _ _ _ _ => unrefused_laneConvRow _ _ _ _ _ _ _ _ _)
        fun _ _ _ _ _ => size_of_laneConvRow).performs_singles held
  | _ => exact performs_error _

theorem performs_laneDepthwise :
    (laneDepthwise lanes ⟨params, inputs, [output], derived⟩).Performs output
      (laneDepthwiseBody lanes ⟨params, inputs, [output], derived⟩) := by
  cases params with
  | conv2d settings =>
      refine performs_checked fun input _ =>
        performs_checked fun weights _ => performs_checked fun bias _ =>
        performs_checked fun image _ => performs_check fun packed _ =>
        performs_checked fun target _ => performs_checked fun outImage _ =>
        performs_checked fun values _ => performs_checked ?_
      rintro ⟨written, old⟩ found
      obtain ⟨rfl, held⟩ := output_of_singleOutput found
      exact (fills_overwriteRows (fun _ _ _ _ => unrefused_laneDepthwiseRow _ _ _ _ _ _ _ _ _)
        fun _ _ _ _ _ => size_of_laneDepthwiseRow).performs_singles held
  | _ => exact performs_error _

theorem performs_lanePool : (lanePool lanes ⟨params, inputs, [output], derived⟩).Performs output
    (lanePoolBody lanes ⟨params, inputs, [output], derived⟩) := by
  cases params with
  | pool2d settings =>
      refine performs_checked fun input _ => performs_checked fun image _ =>
        performs_checked fun target _ => performs_checked fun outImage _ =>
        performs_checked fun values _ => performs_checked ?_
      rintro ⟨written, old⟩ found
      obtain ⟨rfl, held⟩ := output_of_singleOutput found
      exact (fills_overwriteRows (fun _ _ _ _ => unrefused_lanePoolRow _ _ _ _ _ _ _)
        fun _ _ _ _ _ => size_of_lanePoolRow).performs_singles held
  | _ => exact performs_error _

end Performing

end InPlace

end TensorRuntime
