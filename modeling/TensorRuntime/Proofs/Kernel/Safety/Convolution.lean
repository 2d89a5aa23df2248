import TensorRuntime.Proofs.Kernel.ImageBounds
import TensorRuntime.Proofs.Kernel.Safety.Calls

/-!
Convolutions never abort. Shape inference has checked the extents against each other, and
from that every tap, every channel of a group and every weight is inside its array.
-/

namespace TensorRuntime

open Attempt

/-- The extents of a convolution that shape inference accepted. -/
structure ConvExtents where
  settings : ConvParams
  image : ImageDims
  outPerGroup : Nat
  perGroup : Nat
  kernelHeight : Nat
  kernelWidth : Nat
  height : Nat
  width : Nat
  grouped : 0 < settings.groups
  channels : image.channels = settings.groups * perGroup

namespace ConvExtents

def outChannels (extents : ConvExtents) : Nat := extents.settings.groups * extents.outPerGroup

def outImage (extents : ConvExtents) : ImageDims :=
  ⟨extents.image.batch, extents.outChannels, extents.height, extents.width,
    extents.image.channelsLast⟩

def weightCount (extents : ConvExtents) : Nat :=
  extents.outChannels * extents.perGroup * extents.kernelHeight * extents.kernelWidth

structure Describes (extents : ConvExtents) (input weights : Tensor) (rest : List Tensor)
    (output : Tensor) : Prop where
  image : ImageDims.ofTensor input = .ok extents.image
  kernel : weights.dims = [extents.outChannels, extents.perGroup, extents.kernelHeight,
    extents.kernelWidth]
  bias : ∀ start, rest[0]? = some start → start.dims = [extents.outChannels]
  rows : windowCount? extents.image.height extents.kernelHeight extents.settings.stride.1
    extents.settings.dilation.1 extents.settings.padding.top extents.settings.padding.bottom =
      some extents.height
  columns : windowCount? extents.image.width extents.kernelWidth extents.settings.stride.2
    extents.settings.dilation.2 extents.settings.padding.left extents.settings.padding.right =
      some extents.width
  output : output.shape = extents.image.shapeWith extents.outChannels extents.height extents.width

variable {extents : ConvExtents}

theorem outPerGroup_eq (extents : ConvExtents) :
    extents.outChannels / extents.settings.groups = extents.outPerGroup :=
  Nat.mul_div_cancel_left _ extents.grouped

theorem outPerGroup_pos {channel : Nat} (bound : channel < extents.outChannels) :
    0 < extents.outPerGroup :=
  Nat.pos_of_mul_pos_left (Nat.zero_lt_of_lt bound)

theorem inGroup {channel inner : Nat} (bound : channel < extents.outChannels)
    (innerBound : inner < extents.perGroup) :
    channel / extents.outPerGroup * extents.perGroup + inner < extents.image.channels := by
  rw [extents.channels]
  exact place_lt ((Nat.div_lt_iff_lt_mul (outPerGroup_pos bound)).2 bound) innerBound

theorem weight_lt {outChannel channel row column : Nat}
    (outBound : outChannel < extents.outChannels) (bound : channel < extents.perGroup)
    (rowBound : row < extents.kernelHeight) (columnBound : column < extents.kernelWidth) :
    ((outChannel * extents.perGroup + channel) * extents.kernelHeight + row) *
      extents.kernelWidth + column < extents.weightCount :=
  place_lt (place_lt (place_lt outBound bound) rowBound) columnBound

namespace Describes

variable {input weights output : Tensor} {rest : List Tensor}
  (describes : extents.Describes input weights rest output)

include describes

theorem input_count : input.count = extents.image.count :=
  ImageDims.volume_of_ofDims (ImageDims.ofTensor_eq_ok.1 describes.image)

theorem outDims : ImageDims.ofDims output.dims extents.image.layout = .ok extents.outImage := by
  rw [Tensor.dims, describes.output]
  exact ImageDims.ofDims_shapeWith _ _ _ _

theorem output_count : output.count = extents.outImage.count :=
  ImageDims.volume_of_ofDims describes.outDims

theorem weights_count : weights.count = extents.weightCount := by
  change volume weights.dims = _
  rw [describes.kernel]
  simp only [volume_cons, volume_nil, Nat.mul_one, weightCount, Nat.mul_assoc]

end Describes

end ConvExtents

theorem ConvExtents.exists_describes {settings : ConvParams} {input output : Tensor}
    {others : List Tensor}
    (inferred : (Params.conv2d settings).outputShapeOf input others = .ok output.shape) :
    ∃ weights rest, ∃ extents : ConvExtents, others = weights :: rest ∧
      extents.settings = settings ∧ extents.Describes input weights rest output := by
  obtain ⟨weights, rest, rfl, fits⟩ := Params.weights_of_conv2d inferred
  obtain ⟨image, outPerGroup, perGroup, kernelHeight, kernelWidth, height, width, found,
    kernelDims, grouped, channels, biasDims, rows, columns, shape⟩ := convOutputShape_eq_ok fits
  exact ⟨weights, rest,
    ⟨settings, image, outPerGroup, perGroup, kernelHeight, kernelWidth, height, width,
      Nat.pos_of_ne_zero grouped, channels⟩, rfl, rfl, found, kernelDims, biasDims,
    rows, columns, shape⟩

theorem PreparedCall.conv {hook : Precompute} {settings : ConvParams} {inputs : List Tensor}
    {output : Tensor} {derived : Option Derived}
    (call : PreparedCall hook (.conv2d settings) inputs output derived) :
    ∃ input weights rest, ∃ extents : ConvExtents, inputs = input :: weights :: rest ∧
      extents.settings = settings ∧ extents.Describes input weights rest output := by
  obtain ⟨input, others, rfl, _, _, _, inferred⟩ := call.head
  obtain ⟨weights, rest, extents, rfl, own, describes⟩ := ConvExtents.exists_describes inferred
  exact ⟨input, weights, rest, extents, rfl, own, describes⟩

theorem PreparedCall.packed {α : Type} {hook : Precompute} {settings : ConvParams}
    (pack : Array Single → List Nat → Attempt α) (wrap : α → Derived) {routine : String}
    (packs : ∀ inputs, hook (.conv2d settings) inputs = (do
      let weights ← liftM (Call.input ⟨.conv2d settings, inputs, [], none⟩ 1 routine)
      let packed ← pack (← liftM (weights.singlesFor routine)) weights.dims
      return some (wrap packed)))
    {input weights output : Tensor} {rest : List Tensor} {derived : Option Derived}
    (call : PreparedCall hook (.conv2d settings) (input :: weights :: rest) output derived)
    {extents : ConvExtents} (describes : extents.Describes input weights rest output) :
    ∃ (values : Array Single) (packed : α), values.size = extents.weightCount ∧
      pack values [extents.outChannels, extents.perGroup, extents.kernelHeight,
        extents.kernelWidth] = .ok packed ∧ derived = some (wrap packed) := by
  obtain ⟨earlier, hooked, _, seen⟩ := call.seen
  rw [packs] at hooked
  simp only [bind_eq_ok, lift_eq_ok, pure_eq_ok] at hooked
  obtain ⟨earlierWeights, found, values, read, packed, done, rfl⟩ := hooked
  obtain ⟨operand, present, signature, sized⟩ := seen 1 earlierWeights (Call.input_eq_ok.1 found)
  cases present
  have dims := Tensor.dims_of_signature signature
  rw [dims, describes.kernel] at done
  refine ⟨values, packed, ?_, done, rfl⟩
  rw [sized.singles (Tensor.singlesFor_eq_ok.1 read), ← describes.weights_count]
  exact congrArg volume dims

section Taps

variable {extents : ConvExtents} {values : Array Single} {bias : Option (Array Single)}

theorem safe_startValue {channel columns : Nat}
    (biasSize : ∀ start, bias = some start → start.size = columns) (bound : channel < columns) :
    (startValue bias channel).Safe := by
  cases bias with
  | none => exact safe_pure 0
  | some start => exact safe_readAt (biasSize start rfl ▸ bound)

theorem holds_of_tap {settings : ConvParams} {kernelHeight kernelWidth outRow outColumn : Nat}
    {image : ImageDims} {tap : Tap}
    (member : tap ∈ convTaps settings kernelHeight kernelWidth image outRow outColumn)
    {batch channel : Nat} (batchBound : batch < image.batch) (bound : channel < image.channels) :
    image.Holds ⟨batch, channel, tap.row, tap.column⟩ :=
  ⟨batchBound, bound, (inside_of_convTaps member).2⟩

end Taps

section Scalar

structure ConvExtents.Fits (extents : ConvExtents) (packed : ConvWeights) : Prop where
  inPerGroup : packed.inPerGroup = extents.perGroup
  kernelHeight : packed.kernelHeight = extents.kernelHeight
  kernelWidth : packed.kernelWidth = extents.kernelWidth
  size : packed.values.size = extents.weightCount

theorem size_of_repack {α : Type} {values packed : Array α} {fill : α} {count : Nat}
    {source : Nat → Nat} (done : repack values fill count source = .ok packed) :
    packed.size = values.size := by
  unfold repack at done
  split at done
  · cases done
  · exact size_of_tabulate done

theorem PreparedCall.fits {settings : ConvParams} {input weights output : Tensor}
    {rest : List Tensor} {derived : Option Derived}
    (call : PreparedCall packConvWeights (.conv2d settings) (input :: weights :: rest) output
      derived) {extents : ConvExtents} (describes : extents.Describes input weights rest output) :
    ∃ packed, derived = some (.convWeights packed) ∧ extents.Fits packed := by
  obtain ⟨values, packed, size, done, rfl⟩ :=
    call.packed ConvWeights.pack .convWeights (fun _ => rfl) describes
  obtain ⟨reordered, repacked, built⟩ := bind_eq_ok.1 done
  cases built
  exact ⟨_, rfl, rfl, rfl, rfl, (size_of_repack repacked).trans size⟩

variable {extents : ConvExtents}

theorem ConvExtents.Fits.safe_tap {packed : ConvWeights} (fits : extents.Fits packed)
    {outChannel row column : Nat} (outBound : outChannel < extents.outChannels)
    (rowBound : row < extents.kernelHeight) (columnBound : column < extents.kernelWidth) :
    (packed.tap outChannel row column).Safe := by
  unfold ConvWeights.tap
  rw [fits.inPerGroup, fits.kernelHeight, fits.kernelWidth]
  apply safe_readRun
  rw [fits.size]
  exact packed_run_le outBound rowBound columnBound

theorem safe_convElement {values : Array Single} (size : values.size = extents.image.count)
    {packed : ConvWeights} (fits : extents.Fits packed) {bias : Option (Array Single)}
    (biasSize : ∀ start, bias = some start → start.size = extents.outChannels) {pixel : Pixel}
    (inside : extents.outImage.Holds pixel) :
    (convElement extents.settings values extents.image packed bias extents.outPerGroup
      pixel).Safe := by
  obtain ⟨batch, channel, _⟩ := inside
  unfold convElement
  refine (safe_nonzero (ConvExtents.outPerGroup_pos channel)).bind fun _ _ => ?_
  refine (safe_startValue biasSize channel).bind fun start _ => ?_
  refine Safe.bind ?_ fun _ _ => safe_pure _
  apply safe_foldlM_of_steps
  intro tap member sum
  rw [fits.kernelHeight, fits.kernelWidth] at member
  obtain ⟨⟨row, column⟩, _⟩ := inside_of_convTaps member
  refine (fits.safe_tap channel row column).bind fun run read => ?_
  have length : run.length = extents.perGroup := (length_of_readRun read).trans fits.inPerGroup
  apply safe_foldlM_of_steps
  rintro ⟨weight, inner⟩ listed sum
  have innerBound : inner < extents.perGroup := length ▸ List.snd_lt_of_mem_zipIdx listed
  refine Safe.bind (safe_readAt ?_) fun _ _ => safe_pure _
  rw [size, fits.inPerGroup]
  exact ImageDims.index_lt_count
    (holds_of_tap member batch (ConvExtents.inGroup channel innerBound))

theorem convBody_safe {op : OpKind} {params : Params} {inputs : List Tensor} {output : Tensor}
    {derived : Option Derived}
    (call : AdmittedCall packConvWeights op params inputs output derived) :
    (convBody ⟨params, inputs, [output], derived⟩).Safe := by
  cases params with
  | conv2d settings =>
      obtain ⟨input, weights, rest, extents, rfl, rfl, describes⟩ := call.conv
      obtain ⟨packed, rfl, fits⟩ := call.fits describes
      have sized := call.sized
      unfold convBody
      refine .bind_lift fun _ found => ?_
      cases found
      refine .bind_lift fun _ found => ?_
      cases found
      refine .bind_lift fun bias biasRead => ?_
      have biasSize := call.size_of_bias describes.bias biasRead
      refine .bind_lift fun _ found => ?_
      cases describes.image.symm.trans found
      refine .bind_ok rfl ?_
      refine Tensor.safe_bind_singles (sized input (by simp)) fun values size => ?_
      refine .bind_lift fun _ found => ?_
      cases found
      refine .bind_lift fun _ found => ?_
      cases describes.outDims.symm.trans found
      refine Call.safe_bind_output (sized output (by simp)) fun old oldSize => ?_
      refine (safe_nonzero extents.grouped).bind fun _ _ => ?_
      refine (safe_tabulate fun index bound => ?_).map _
      rw [oldSize, describes.output_count] at bound
      obtain ⟨pixel, placed, inside⟩ := ImageDims.pixelAt_inside bound
      refine .bind_ok placed ?_
      dsimp only [ConvExtents.outImage]
      rw [extents.outPerGroup_eq]
      exact safe_convElement (size.trans describes.input_count) fits biasSize inside
  | _ => exact safe_refuse _

end Scalar

section Stored

theorem Tensor.weightRecord_eq_ok {weights : Tensor} {routine : String} {record : Quantization}
    (found : weights.weightRecord routine = .ok record) :
    weights.quantization = some record ∧ ∀ axis, record.axis? = some axis → axis = 0 := by
  unfold weightRecord at found
  split at found
  · cases found
  · rename_i own recorded
    split at found
    · cases found
    · rename_i outermost
      cases found
      refine ⟨recorded, fun axis along => ?_⟩
      cases axis with
      | zero => rfl
      | succ axis => exact (outermost axis along).elim

theorem Tensor.Valid.affineOf_weight {weights : Tensor} (valid : weights.Valid)
    (integer : weights.elementType.isInteger = true) {routine : String} {record : Quantization}
    (found : weights.weightRecord routine = .ok record) {outChannels : Nat} {inner : List Nat}
    (dims : weights.dims = outChannels :: inner) {channel : Nat} (bound : channel < outChannels) :
    ∃ affine, record.affineOf channel = .ok affine := by
  obtain ⟨recorded, outermost⟩ := weightRecord_eq_ok found
  obtain ⟨own, present, checked⟩ := valid.record integer
  cases recorded.symm.trans present
  refine Quantization.affineOf_ok checked fun axis along extent extents => ?_
  cases outermost axis along
  rw [dims] at extents
  cases extents
  exact bound

variable {extents : ConvExtents}

theorem safe_storedConvSum {stored weights : Array Int} {record : Quantization}
    (size : stored.size = extents.image.count) (weightsSize : weights.size = extents.weightCount)
    (zeroPoint weightZero : Int) {pixel : Pixel} (inside : extents.outImage.Holds pixel) :
    (storedConvSum extents.settings stored extents.image zeroPoint
      ⟨weights, record, extents.perGroup, extents.kernelHeight, extents.kernelWidth⟩ weightZero
      (pixel.channel / extents.outPerGroup) pixel).Safe := by
  obtain ⟨batch, channel, _⟩ := inside
  apply safe_foldlM_of_steps
  intro tap member sum
  obtain ⟨⟨row, column⟩, _⟩ := inside_of_convTaps member
  apply safe_foldlM_of_steps
  intro inner listed sum
  have innerBound := List.mem_range.1 listed
  refine Safe.bind (safe_readAt ?_) fun _ _ => Safe.bind (safe_readAt ?_) fun _ _ => safe_pure _
  · rw [size]
    exact ImageDims.index_lt_count
      (holds_of_tap member batch (ConvExtents.inGroup channel innerBound))
  · rw [weightsSize]
    exact ConvExtents.weight_lt channel innerBound row column

theorem storedConvBody_safe [Host] {hook : Precompute} {op : OpKind} {params : Params}
    {inputs : List Tensor} {output : Tensor} {derived : Option Derived}
    (call : AdmittedCall hook op params inputs output derived) :
    (storedConvBody ⟨params, inputs, [output], derived⟩).Safe := by
  cases params with
  | conv2d settings =>
      obtain ⟨input, weights, rest, extents, rfl, rfl, describes⟩ := call.conv
      have sized := call.sized
      unfold storedConvBody
      refine .bind_lift fun _ found => ?_
      cases found
      refine .bind_lift fun _ found => ?_
      cases found
      refine .bind_lift fun affine _ => .bind_lift fun record recorded => ?_
      refine Safe.bind (safe_realBias fun start present => sized start (by
        simp [List.mem_of_getElem? (show rest[0]? = some start from present)])) fun bias read => ?_
      have biasSize := size_of_realBias describes.bias read
      refine .bind_lift fun _ found => ?_
      cases describes.image.symm.trans found
      rw [describes.kernel]
      dsimp only
      refine Tensor.safe_bind_stored (sized input (by simp)) fun stored size => ?_
      refine .bind_lift fun storedWeights weightsRead => ?_
      obtain ⟨weightType, weightsHeld⟩ := Tensor.storedFor_eq_ok.1 weightsRead
      have weightsSize := (sized weights (by simp)).stored weightsHeld
      refine .bind_lift fun _ found => ?_
      cases found
      refine .bind_lift fun outAffine _ => .bind_lift fun _ found => ?_
      cases describes.outDims.symm.trans found
      refine (safe_nonzero extents.grouped).bind fun _ _ => ?_
      refine Tensor.safe_bind_slots (sized output (by simp)) fun integer => ?_
      refine Safe.bind (safe_tabulate fun index bound => ?_)
        fun _ _ => Tensor.safe_withStored integer _
      rw [describes.output_count] at bound
      obtain ⟨pixel, placed, inside⟩ := ImageDims.pixelAt_inside bound
      refine .bind_ok placed ?_
      dsimp only [ConvExtents.outImage]
      rw [extents.outPerGroup_eq]
      refine (safe_nonzero (ConvExtents.outPerGroup_pos inside.2.1)).bind fun _ _ => ?_
      obtain ⟨weightAffine, paired⟩ := (call.valid weights (by simp)).affineOf_weight
        (by rw [weightType]; rfl) recorded describes.kernel inside.2.1
      refine .bind_ok paired ?_
      refine (safe_storedConvSum (size.trans describes.input_count)
        (weightsSize.trans describes.weights_count) _ _ inside).bind fun sum _ => ?_
      cases bias with
      | none => exact safe_pure _
      | some start =>
          exact Safe.bind ((safe_readAt (biasSize start rfl ▸ inside.2.1)).map _)
            fun _ _ => safe_pure _
  | _ => exact safe_refuse _

end Stored

end TensorRuntime
