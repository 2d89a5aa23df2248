import TensorRuntime.Proofs.Kernel.Calls
import TensorRuntime.Proofs.Kernel.Convolution
import TensorRuntime.Proofs.Kernel.Pooling
import TensorRuntime.Proofs.Kernel.RowConvolution

/-!
Valid calls on images that have their channels last. The inferred output shape says
that all sizes fit, and then the scalar body and the lane body write the same tensor.
-/

namespace TensorRuntime

open Attempt

section Images

structure Tensor.HoldsImages (tensor : Tensor) (values : Array Single) (image : ImageDims) :
    Prop where
  dims : tensor.dims = [image.batch, image.height, image.width, image.channels]
  held : tensor.buffer = .f32 values
  size : values.size = image.batch * image.height * image.width * image.channels
  last : image.channelsLast = true
  positive : 0 < image.height ∧ 0 < image.width ∧ 0 < image.channels

theorem ValidCall.holdsImages {params : Params} {inputs : List Tensor} {output tensor : Tensor}
    (valid : ValidCall params inputs output) (member : tensor ∈ output :: inputs)
    {batch height width channels : Nat} (dims : tensor.dims = [batch, height, width, channels]) :
    ∃ values, tensor.HoldsImages values ⟨batch, channels, height, width, true⟩ := by
  obtain ⟨values, held, size⟩ := valid.held member
  have extents := valid.extents tensor member
  rw [dims] at extents
  simp only [List.mem_cons, List.not_mem_nil, or_false, not_or] at extents
  have count : values.size = batch * height * width * channels := by
    rw [size]
    change volume tensor.dims = _
    rw [dims]
    simp only [volume_cons, volume_nil, Nat.mul_one, Nat.mul_assoc]
  have positive : 0 < height ∧ 0 < width ∧ 0 < channels := by omega
  exact ⟨values, dims, held, count, rfl, positive⟩

namespace Tensor.HoldsImages

variable {tensor : Tensor} {values : Array Single} {image : ImageDims}

theorem ofDims (holds : tensor.HoldsImages values image) :
    ImageDims.ofDims tensor.dims .nhwc = .ok image := by
  rw [holds.dims]
  change Except.ok (⟨image.batch, image.channels, image.height, image.width, true⟩ : ImageDims) = _
  rw [← holds.last]

theorem tabulate_eq (holds : tensor.HoldsImages values image)
    (elementOf : Pixel → Attempt Single) (element : Pixel → Single)
    (each : ∀ pixel, image.Holds pixel → elementOf pixel = .ok (element pixel)) :
    (tabulate values.size fun index => do elementOf (← image.pixelAt index)) =
      .ok (arrayOf values.size fun index => element (image.pixelOf index)) := by
  obtain ⟨height, width, channels⟩ := holds.positive
  apply tabulate_of_ok
  intro index bound
  rw [ImageDims.pixelAt_eq_ok holds.last channels height width]
  exact each _ (ImageDims.pixelOf_holds channels height width (holds.size ▸ bound))

theorem tabulateRows_eq (holds : tensor.HoldsImages values image)
    (rowAt : Nat → Nat → Nat → Nat → Attempt Row) (element : Pixel → Single)
    (each : ∀ batch row column, batch < image.batch →
      rowAt image.channels batch row column =
        .ok (arrayOf image.channels fun channel => element ⟨batch, channel, row, column⟩)) :
    tabulateRows image.channels image values rowAt =
      .ok (arrayOf values.size fun index => element (image.pixelOf index)) := by
  obtain ⟨height, width, channels⟩ := holds.positive
  apply tabulateRows_of_ok channels height width holds.size
  intro pixel bound
  have batch : pixel / (image.width * image.height) < image.batch := by
    rw [Nat.div_lt_iff_lt_mul (Nat.mul_pos width height)]
    refine Nat.lt_of_lt_of_eq bound ?_
    ac_rfl
  rw [each _ _ _ batch]
  congr 1
  apply arrayOf_congr
  intro channel inRow
  rw [ImageDims.pixelOf_channel inRow]

end Tensor.HoldsImages

theorem ImageDims.ofTensor_channelsLast {tensor : Tensor} {image : ImageDims}
    (layout : tensor.layout = .nhwc) (found : ofTensor tensor = .ok image) :
    image.channelsLast = true ∧
      tensor.dims = [image.batch, image.height, image.width, image.channels] := by
  obtain ⟨_, last, dims⟩ | ⟨other, _⟩ := ofDims_cases (ofTensor_eq_ok.1 found)
  · exact ⟨last, dims⟩
  · simp [layout] at other

theorem channelsLastDims_eq {tensor : Tensor} {image : ImageDims}
    (found : ImageDims.ofTensor tensor = .ok image) (last : image.channelsLast = true)
    (routine : String) : channelsLastDims tensor routine = .ok image := by
  refine bind_eq_ok.2 ⟨image, found, ?_⟩
  rw [if_pos last]
  rfl

end Images

theorem ValidCall.exists_weightsHeld {params : Params} {inputs : List Tensor}
    {output weights : Tensor} (valid : ValidCall params inputs output)
    (member : weights ∈ output :: inputs) {outChannels perGroup kernelHeight kernelWidth : Nat}
    (dims : weights.dims = [outChannels, perGroup, kernelHeight, kernelWidth]) :
    ∃ kernel, weights.buffer = .f32 kernel ∧
      kernel.size = outChannels * perGroup * kernelHeight * kernelWidth ∧
      0 < outChannels ∧ 0 < perGroup ∧ 0 < kernelHeight ∧ 0 < kernelWidth := by
  obtain ⟨kernel, held, size⟩ := valid.held member
  have extents := valid.extents weights member
  rw [dims] at extents
  simp only [List.mem_cons, List.not_mem_nil, or_false, not_or] at extents
  refine ⟨kernel, held, ?_, by omega⟩
  rw [size]
  change volume weights.dims = _
  rw [dims]
  simp only [volume_cons, volume_nil, Nat.mul_one, Nat.mul_assoc]

namespace Convolution

structure Serves (conv : Convolution) (input weights : Tensor) (rest : List Tensor)
    (output : Tensor) (old : Array Single) (outImage : ImageDims) : Prop where
  room : output.HoldsImages old outImage
  batch : outImage.batch = conv.image.batch
  channels : outImage.channels = conv.outChannels
  image : ImageDims.ofTensor input = .ok conv.image
  values : input.buffer = .f32 conv.values
  kernel : weights.buffer = .f32 conv.weights
  kernelDims : weights.dims =
    [conv.outChannels, conv.perGroup, conv.kernelHeight, conv.kernelWidth]
  bias : ∀ routine, biasFor (input :: weights :: rest)[2]? routine = .ok conv.bias
  positive : 0 < conv.params.groups ∧ 0 < conv.kernelHeight ∧ 0 < conv.kernelWidth

theorem exists_serves {settings : ConvParams} {input : Tensor} {others : List Tensor}
    {output : Tensor} (valid : ValidCall (.conv2d settings) (input :: others) output)
    (layout : input.layout = .nhwc) :
    ∃ weights rest, ∃ conv : Convolution, ∃ old outImage, others = weights :: rest ∧
      conv.params = settings ∧ conv.Serves input weights rest output old outImage := by
  obtain ⟨_, _, same, inferred⟩ := valid.inferredOf
  cases same
  obtain ⟨weights, rest, rfl, fits⟩ := Params.weights_of_conv2d inferred
  obtain ⟨image, outPerGroup, perGroup, kernelHeight, kernelWidth, height, width, found,
    kernelDims, grouped, channels, biasDims, _, _, shape⟩ := convOutputShape_eq_ok fits
  obtain ⟨last, dims⟩ := ImageDims.ofTensor_channelsLast layout found
  have outDims : output.dims = [image.batch, height, width, settings.groups * outPerGroup] := by
    rw [Tensor.dims, shape, ImageDims.shapeWith, if_pos last]
  obtain ⟨old, room⟩ := valid.holdsImages (by simp) outDims
  obtain ⟨values, holds⟩ := valid.holdsImages (by simp) dims
  obtain ⟨kernel, kernelHeld, kernelFits, positive⟩ :=
    valid.exists_weightsHeld (show weights ∈ _ by simp) kernelDims
  obtain ⟨bias, biasHeld, biasSize⟩ := exists_biasHeld
    (fun start found => valid.valid start (by simp [List.mem_of_getElem? found]))
    (fun start found => valid.singles start (by simp [List.mem_of_getElem? found])) biasDims
  exact ⟨weights, rest,
    { params := settings
      image
      values
      weights := kernel
      bias
      outPerGroup
      perGroup
      kernelHeight
      kernelWidth
      channelsLast := last
      channels
      valuesSize := holds.size
      weightsSize := kernelFits
      biasSize
      outPositive := Nat.pos_of_mul_pos_left positive.1
      inPositive := positive.2.1 },
    old, _, rfl, rfl,
    { room
      batch := rfl
      channels := rfl
      image := found
      values := holds.held
      kernel := kernelHeld
      kernelDims
      bias := biasFor_of_held biasHeld
      positive := ⟨Nat.pos_of_ne_zero grouped, positive.2.2⟩ }⟩

variable {conv : Convolution} {input weights output : Tensor} {rest : List Tensor}
  {old : Array Single} {outImage : ImageDims} {derived : Option Derived}

def result (conv : Convolution) (output : Tensor) (old : Array Single) (outImage : ImageDims) :
    Tensor :=
  output.withSingles (arrayOf old.size fun index => conv.element (outImage.pixelOf index))

namespace Serves

variable (serves : conv.Serves input weights rest output old outImage)

include serves

theorem outPositive : 0 < conv.outChannels := by
  rw [← serves.channels]
  exact serves.room.positive.2.2

section Packing

variable {α : Type} {pack : Array Single → List Nat → Attempt α} {packed : α}
  (packs : pack conv.weights
    [conv.outChannels, conv.perGroup, conv.kernelHeight, conv.kernelWidth] = .ok packed)

include packs

theorem derive_eq (routine : String) :
    (do pack (← liftM (weights.singlesFor routine)) weights.dims) = .ok packed := by
  rw [Tensor.singlesFor_eq serves.kernel, serves.kernelDims]
  exact packs

theorem hook_eq (stored : α → Derived) (routine : String) :
    (do
      let weights ← liftM
        (Call.input ⟨.conv2d conv.params, input :: weights :: rest, [], none⟩ 1 routine)
      let values ← pack (← liftM (weights.singlesFor routine)) weights.dims
      return some (stored values) : Attempt (Option Derived)) = .ok (some (stored packed)) := by
  refine bind_eq_ok.2 ⟨weights, rfl, ?_⟩
  rw [Tensor.singlesFor_eq serves.kernel, serves.kernelDims]
  exact bind_eq_ok.2 ⟨conv.weights, rfl, bind_eq_ok.2 ⟨packed, packs, rfl⟩⟩

end Packing

theorem packConvWeights_eq :
    packConvWeights (.conv2d conv.params) (input :: weights :: rest) =
      .ok (some (.convWeights conv.byChannel)) :=
  serves.hook_eq pack_byChannel .convWeights _

theorem packLaneConvWeights_eq :
    packLaneConvWeights (.conv2d conv.params) (input :: weights :: rest) =
      .ok (some (.laneConvWeights conv.byTap)) :=
  serves.hook_eq (pack_byTap serves.outPositive serves.positive.2.2) .laneConvWeights _

theorem packLaneDepthwiseWeights_eq (single : conv.perGroup = 1) :
    packLaneDepthwiseWeights (.conv2d conv.params) (input :: weights :: rest) =
      .ok (some (.laneDepthwiseWeights conv.byPosition)) :=
  serves.hook_eq (pack_byPosition single serves.outPositive serves.positive.2.2)
    .laneDepthwiseWeights _

theorem convBody_eq (primed : derived = none ∨ derived = some (.convWeights conv.byChannel)) :
    convBody ⟨.conv2d conv.params, input :: weights :: rest, [output], derived⟩ =
      .ok (conv.result output old outImage) := by
  have outPerGroup : outImage.channels / conv.params.groups = conv.outPerGroup := by
    rw [serves.channels, Convolution.outChannels, Nat.mul_div_cancel_left _ serves.positive.1]
  have elements := serves.room.tabulate_eq
    (convElement conv.params conv.values conv.image conv.byChannel conv.bias
      (outImage.channels / conv.params.groups)) conv.element fun pixel inside => by
        rw [outPerGroup]
        exact convElement_eq (serves.batch ▸ inside.1) (serves.channels ▸ inside.2.1)
  unfold convBody
  simp only [bind_eq_ok, lift_eq_ok, map_eq_ok]
  refine ⟨input, rfl, weights, rfl, conv.bias, serves.bias _, conv.image, serves.image,
    conv.byChannel, ?_, conv.values, Tensor.singlesFor_eq serves.values _, output, rfl,
    outImage, ?_, ⟨output, old⟩, Call.singleOutput_eq serves.room.held _, (),
    nonzero_of_pos serves.positive.1, _, elements, rfl⟩
  · exact derivedOr_eq rfl (serves.derive_eq pack_byChannel _) primed
  · rw [ImageDims.layout, conv.channelsLast, if_pos rfl]
    exact serves.room.ofDims

theorem rowBody_eq {α : Type} {kernel : RowConvolution α} {packed : α}
    (taken : derivedOr (derived.bind kernel.held?) (do
      kernel.pack (← liftM (weights.singlesFor kernel.routine)) weights.dims) = .ok packed)
    (channels : kernel.outChannels packed = conv.outChannels)
    (rows : ∀ batch row column, batch < conv.image.batch →
      kernel.row conv.params conv.values conv.image packed conv.bias conv.outChannels batch row
          column =
        .ok (arrayOf conv.outChannels fun channel => conv.element ⟨batch, channel, row, column⟩)) :
    kernel.body conv.params ⟨.conv2d conv.params, input :: weights :: rest, [output], derived⟩ =
      .ok (conv.result output old outImage) := by
  have computed := serves.room.tabulateRows_eq
    (kernel.row conv.params conv.values conv.image packed conv.bias) conv.element
    fun batch row column bound => by
      rw [serves.channels]
      exact rows batch row column (serves.batch ▸ bound)
  rw [serves.channels, ← channels] at computed
  unfold RowConvolution.body
  simp only [bind_eq_ok, lift_eq_ok, map_eq_ok]
  exact ⟨input, rfl, weights, rfl, conv.bias, serves.bias _, conv.image,
    channelsLastDims_eq serves.image conv.channelsLast _, packed, taken, output, rfl, outImage,
    serves.room.ofDims, conv.values, Tensor.singlesFor_eq serves.values _, ⟨output, old⟩,
    Call.singleOutput_eq serves.room.held _, _, computed, rfl⟩

theorem laneConvBody_eq {lanes : Nat} (wide : 0 < lanes) (plain : conv.params.groups = 1)
    (primed : derived = none ∨ derived = some (.laneConvWeights conv.byTap)) :
    laneConvBody lanes ⟨.conv2d conv.params, input :: weights :: rest, [output], derived⟩ =
      .ok (conv.result output old outImage) := by
  have packs := pack_byTap serves.outPositive serves.positive.2.2
  rw [laneConvBody_conv2d, if_neg (Classical.not_not.2 plain)]
  exact serves.rowBody_eq (derivedOr_eq rfl (serves.derive_eq packs _) primed) rfl
    fun _ _ _ bound => laneConvRow_eq wide plain bound

theorem laneDepthwiseBody_eq {lanes : Nat} (wide : 0 < lanes) (single : conv.perGroup = 1)
    (primed : derived = none ∨ derived = some (.laneDepthwiseWeights conv.byPosition)) :
    laneDepthwiseBody lanes ⟨.conv2d conv.params, input :: weights :: rest, [output], derived⟩ =
      .ok (conv.result output old outImage) := by
  have packs := pack_byPosition single serves.outPositive serves.positive.2.2
  rw [laneDepthwiseBody_conv2d]
  exact serves.rowBody_eq (derivedOr_eq rfl (serves.derive_eq packs _) primed) rfl
    fun _ _ _ bound => laneDepthwiseRow_eq single wide serves.positive.1 bound

end Serves

end Convolution

namespace MaxPooling

structure Serves (pool : MaxPooling) (input output : Tensor) (old : Array Single)
    (outImage : ImageDims) : Prop where
  room : output.HoldsImages old outImage
  batch : outImage.batch = pool.image.batch
  channels : outImage.channels = pool.image.channels
  image : ImageDims.ofTensor input = .ok pool.image
  values : input.buffer = .f32 pool.values

theorem exists_serves {settings : PoolParams} {input : Tensor} {others : List Tensor}
    {output : Tensor} (valid : ValidCall (.pool2d settings) (input :: others) output)
    (layout : input.layout = .nhwc) (mode : settings.mode = .max) :
    ∃ pool : MaxPooling, ∃ old outImage,
      pool.params = settings ∧ pool.Serves input output old outImage := by
  obtain ⟨_, _, same, inferred⟩ := valid.inferredOf
  cases same
  obtain ⟨image, height, width, found, _, _, shape⟩ :=
    poolOutputShape_eq_ok (lift_eq_ok.1 inferred)
  obtain ⟨last, dims⟩ := ImageDims.ofTensor_channelsLast layout found
  have outDims : output.dims = [image.batch, height, width, image.channels] := by
    rw [Tensor.dims, shape, ImageDims.shapeWith, if_pos last]
  obtain ⟨old, room⟩ := valid.holdsImages (by simp) outDims
  obtain ⟨values, holds⟩ := valid.holdsImages (by simp) dims
  exact ⟨⟨settings, image, values, mode, last, holds.size⟩, old, _, rfl,
    ⟨room, rfl, rfl, found, holds.held⟩⟩

variable {pool : MaxPooling} {input output : Tensor} {others : List Tensor} {old : Array Single}
  {outImage : ImageDims} {derived : Option Derived}

def result (pool : MaxPooling) (output : Tensor) (old : Array Single) (outImage : ImageDims) :
    Tensor :=
  output.withSingles (arrayOf old.size fun index => pool.element (outImage.pixelOf index))

namespace Serves

variable (serves : pool.Serves input output old outImage)

include serves

theorem poolBody_eq :
    poolBody ⟨.pool2d pool.params, input :: others, [output], derived⟩ =
      .ok (pool.result output old outImage) := by
  have elements := serves.room.tabulate_eq (poolElement pool.params pool.values pool.image)
    pool.element fun pixel inside =>
      poolElement_eq (serves.batch ▸ inside.1) (serves.channels ▸ inside.2.1)
  unfold poolBody
  simp only [bind_eq_ok, lift_eq_ok, map_eq_ok]
  refine ⟨input, rfl, pool.image, serves.image, output, rfl, outImage, ?_, pool.values,
    Tensor.singlesFor_eq serves.values _, ⟨output, old⟩,
    Call.singleOutput_eq serves.room.held _, _, elements, rfl⟩
  rw [ImageDims.layout, pool.channelsLast, if_pos rfl]
  exact serves.room.ofDims

theorem lanePoolBody_eq {lanes : Nat} (wide : 0 < lanes) :
    lanePoolBody lanes ⟨.pool2d pool.params, input :: others, [output], derived⟩ =
      .ok (pool.result output old outImage) := by
  have rows := serves.room.tabulateRows_eq (lanePoolRow lanes pool.params pool.values pool.image)
    pool.element fun batch row column bound => by
      rw [serves.channels]
      exact lanePoolRow_eq wide (serves.batch ▸ bound)
  rw [serves.channels] at rows
  unfold lanePoolBody
  simp only [bind_eq_ok, lift_eq_ok, map_eq_ok]
  exact ⟨input, rfl, pool.image, channelsLastDims_eq serves.image pool.channelsLast _, output, rfl,
    outImage, serves.room.ofDims, pool.values, Tensor.singlesFor_eq serves.values _,
    ⟨output, old⟩, Call.singleOutput_eq serves.room.held _, _, rows, rfl⟩

end Serves

end MaxPooling

end TensorRuntime
