import Mathlib.Tactic.Ring
import TensorRuntime.Proofs.Kernel.ChannelBodies
import TensorRuntime.Proofs.Kernel.Progress.Bodies

/-!
Pixels and stored positions. Inside an image they determine each other, whichever order the axes
have, and the channel of a pixel is the coordinate along the channel axis of the layout, which is
the one that a batch normalisation works on.
-/

namespace TensorRuntime

open Attempt

namespace ImageDims

variable {dims : List Nat} {layout : Layout} {image : ImageDims} {pixel : Pixel} {position : Nat}

def extents (image : ImageDims) : List Nat :=
  (image.shapeWith image.channels image.height image.width).dims

def channelAxis (image : ImageDims) : Nat := if image.channelsLast then 3 else 1

def coordinatesOf (image : ImageDims) (pixel : Pixel) : List Nat :=
  if image.channelsLast then [pixel.batch, pixel.row, pixel.column, pixel.channel]
  else [pixel.batch, pixel.channel, pixel.row, pixel.column]

theorem ofDims_eq_ok (read : ofDims dims layout = .ok image) :
    dims = image.extents ∧ layout.channelAxis?.getD 1 = image.channelAxis ∧
      ∀ other, ofDims other image.layout = ofDims other layout := by
  unfold ofDims at read
  split at read
  · split at read
    · cases read
      exact ⟨rfl, rfl, fun _ => rfl⟩
    · cases read
      exact ⟨rfl, rfl, fun _ => rfl⟩
    · cases read
      exact ⟨rfl, rfl, fun _ => rfl⟩
    · cases read
  · cases read

theorem index_eq_offset (image : ImageDims) (pixel : Pixel) :
    image.index pixel = Shape.offset (image.coordinatesOf pixel) (Shape.strides image.extents) := by
  unfold index coordinatesOf extents shapeWith
  split <;> simp [Shape.offset, Shape.strides] <;> ring

theorem within_coordinatesOf (inside : image.Holds pixel) :
    Shape.Within (image.coordinatesOf pixel) image.extents := by
  obtain ⟨batch, channel, row, column⟩ := inside
  unfold coordinatesOf extents shapeWith
  split <;> simp [Shape.Within, batch, channel, row, column]

theorem coordinates_index (inside : image.Holds pixel) :
    Shape.coordinates image.extents (image.index pixel) = image.coordinatesOf pixel := by
  rw [index_eq_offset, Shape.coordinates_offset (within_coordinatesOf inside)]

theorem channel_of_coordinates (image : ImageDims) (pixel : Pixel) :
    (image.coordinatesOf pixel)[image.channelAxis]? = some pixel.channel := by
  unfold coordinatesOf channelAxis
  split <;> rfl

theorem extents_channelAxis (image : ImageDims) :
    image.extents[image.channelAxis]? = some image.channels := by
  unfold extents channelAxis shapeWith
  split <;> rfl

theorem channel_of_position (bound : position < image.count)
    (found : image.pixelAt position = .ok pixel) :
    position / volume (image.extents.drop (image.channelAxis + 1)) % image.channels =
      pixel.channel := by
  obtain ⟨_, again, inside⟩ := pixelAt_inside bound
  cases found.symm.trans again
  have along := channel_of_coordinates image pixel
  rw [← coordinates_index inside, index_of_pixelAt found, Shape.coordinates_getElem?,
    extents_channelAxis] at along
  exact Option.some.inj along

theorem volume_inside_channels (bound : position < image.count) :
    volume (image.extents.drop (image.channelAxis + 1)) ≠ 0 := by
  obtain ⟨_, height, width⟩ := positive_of_count bound
  unfold extents channelAxis shapeWith
  split
  · exact Nat.one_ne_zero
  · simp
    omega

end ImageDims

section BatchNorm

variable {image : ImageDims} {epsilon : Single} {input output : Tensor} {statistics : List Tensor}
  {derived : Option Derived}

theorem batchNormAxis_of_image (read : ImageDims.ofDims input.dims input.layout = .ok image) :
    batchNormAxis input = .ok image.channelAxis := by
  obtain ⟨own, axis, _⟩ := ImageDims.ofDims_eq_ok read
  have rank : input.shape.rank = 4 := by
    change input.dims.length = 4
    rw [own]
    unfold ImageDims.extents ImageDims.shapeWith
    split <;> rfl
  unfold batchNormAxis
  rw [rank, axis]
  unfold ImageDims.channelAxis
  split <;> rfl

theorem channels_of_image (read : ImageDims.ofDims input.dims input.layout = .ok image) :
    input.dims.getD image.channelAxis 0 = image.channels := by
  rw [(ImageDims.ofDims_eq_ok read).1, List.getD_eq_getElem?_getD,
    ImageDims.extents_channelAxis]
  rfl

theorem batchNormBody_by_pixel (read : ImageDims.ofDims input.dims input.layout = .ok image)
    {values old written : Array Single} (held : input.buffer = .f32 values)
    (size : values.size = image.count) (outHeld : output.buffer = .f32 old)
    (outSize : old.size = image.count) {folded : FoldedNorm}
    (scales : folded.scale.size = image.channels) (shifts : folded.shift.size = image.channels)
    (done : tabulate image.count (fun place => do
      normElement folded values image (← image.pixelAt place)) = .ok written) :
    batchNormBody ⟨.batchNorm epsilon, input :: statistics, [output], some (.foldedNorm folded)⟩ =
      .ok (output.withSingles written) := by
  unfold batchNormBody
  simp only [bind_eq_ok, lift_eq_ok, guard_eq_ok, map_eq_ok]
  refine ⟨input, rfl, folded, rfl, image.channelAxis, batchNormAxis_of_image read, ?_, values,
    Tensor.singlesFor_eq held _, (output, old), Call.singleOutput_eq outHeld _, written, ?_, rfl⟩
  · rw [channels_of_image read, scales, shifts]
    simp
  · dsimp only
    rw [← done, outSize, channels_of_image read, (ImageDims.ofDims_eq_ok read).1]
    exact tabulate_congr fun place bound =>
      normElement_of_place folded size bound (ImageDims.volume_inside_channels bound)
        fun pixel found => ImageDims.channel_of_position bound found

theorem PreparedCall.normalizes
    (call : PreparedCall foldBatchNorm (.batchNorm epsilon) (input :: statistics) output derived)
    (singles : ∀ tensor ∈ output :: input :: statistics, tensor.elementType = .f32)
    (read : ImageDims.ofDims input.dims input.layout = .ok image) :
    ∃ folded values written, derived = some (.foldedNorm folded) ∧ input.buffer = .f32 values ∧
      batchNormKernel.run ⟨.batchNorm epsilon, input :: statistics, [output], derived⟩ =
        ⟨[output.withSingles written], .ok ()⟩ ∧
      ∀ pixel, image.Holds pixel → ∃ value scale shift,
        values[image.index pixel]? = some value ∧ folded.scale[pixel.channel]? = some scale ∧
        folded.shift[pixel.channel]? = some shift ∧
        written[image.index pixel]? = some (value * scale + shift) := by
  obtain ⟨_, _, same, inputSized, outputSized, _, inferred⟩ := call.head
  cases same
  obtain ⟨axis, located, dims, shape⟩ := batchNormOutputShape_eq_ok.1 (lift_eq_ok.1 inferred)
  cases located.symm.trans (batchNormAxis_of_image read)
  rw [channels_of_image read] at dims
  obtain ⟨folded, rfl, scales, shifts⟩ := call.folded dims
  obtain ⟨values, held⟩ := Tensor.exists_singles (singles input (by simp))
  obtain ⟨old, outHeld⟩ := Tensor.exists_singles (singles output (by simp))
  have size : values.size = image.count :=
    (inputSized.singles held).trans (ImageDims.volume_of_ofDims read)
  have outSize : old.size = image.count :=
    (outputSized.singles outHeld).trans
      ((congrArg Shape.count shape).trans (ImageDims.volume_of_ofDims read))
  have elements (pixel : Pixel) (inside : image.Holds pixel) :
      normElement folded values image pixel = .ok (elementAt values (image.index pixel) *
        elementAt folded.scale pixel.channel + elementAt folded.shift pixel.channel) := by
    have channel := inside.2.1
    rw [normElement, readAt_elementAt (size ▸ ImageDims.index_lt_count inside),
      readAt_elementAt (scales ▸ channel), readAt_elementAt (shifts ▸ channel)]
    rfl
  obtain ⟨written, done, _, each⟩ := ImageDims.exists_tabulated elements
  refine ⟨folded, values, written, rfl, held, Kernel.run_ofBody_ok
    (batchNormBody_by_pixel read held size outHeld outSize scales shifts done),
    fun pixel inside => ⟨_, _, _, ?_, ?_, ?_, each pixel inside⟩⟩
  · exact readAt_eq_ok.1 (readAt_elementAt (size ▸ ImageDims.index_lt_count inside))
  · exact readAt_eq_ok.1 (readAt_elementAt (scales ▸ inside.2.1))
  · exact readAt_eq_ok.1 (readAt_elementAt (shifts ▸ inside.2.1))

end BatchNorm

/-- Pixels of an image and stored positions below its size are in bijection, other extents can be
read back in the order of the image, and the channel of a pixel is its coordinate along the
channel axis of the layout, which is also the channel that a batch normalisation takes. -/
theorem pixels_and_positions_correspond {dims : List Nat} {layout : Layout} {image : ImageDims}
    (read : ImageDims.ofDims dims layout = .ok image) :
    (∀ pixel, image.Holds pixel → image.index pixel < image.count ∧
      image.pixelAt (image.index pixel) = .ok pixel) ∧
    (∀ position, position < image.count → ∃ pixel, image.pixelAt position = .ok pixel ∧
      image.Holds pixel ∧ image.index pixel = position) ∧
    (∀ channels height width, ∀ order ∈ [layout, image.layout],
      ImageDims.ofDims (image.shapeWith channels height width).dims order =
        .ok ⟨image.batch, channels, height, width, image.channelsLast⟩) ∧
    (∀ position pixel, position < image.count → image.pixelAt position = .ok pixel →
      let axis := layout.channelAxis?.getD 1
      (Shape.coordinates dims position)[axis]? = some pixel.channel ∧
      position / volume (dims.drop (axis + 1)) % dims.getD axis 0 = pixel.channel) ∧
    ∀ (epsilon : Single) (input output : Tensor) (statistics : List Tensor)
      (derived : Option Derived), input.dims = dims → input.layout = layout →
      PreparedCall foldBatchNorm (.batchNorm epsilon) (input :: statistics) output derived →
      (∀ tensor ∈ output :: input :: statistics, tensor.elementType = .f32) →
      ∃ folded values written, derived = some (.foldedNorm folded) ∧
        input.buffer = .f32 values ∧
        batchNormKernel.run ⟨.batchNorm epsilon, input :: statistics, [output], derived⟩ =
          ⟨[output.withSingles written], .ok ()⟩ ∧
        ∀ position pixel, position < image.count → image.pixelAt position = .ok pixel →
          ∃ value scale shift, values[position]? = some value ∧
            folded.scale[pixel.channel]? = some scale ∧
            folded.shift[pixel.channel]? = some shift ∧
            written[position]? = some (value * scale + shift) := by
  obtain ⟨own, axis, same⟩ := ImageDims.ofDims_eq_ok read
  refine ⟨fun pixel inside => ⟨ImageDims.index_lt_count inside, ImageDims.pixelAt_index inside⟩,
    fun position bound => ?_, fun channels height width order either => ?_,
    fun position pixel bound found => ?_, ?_⟩
  · obtain ⟨pixel, found, inside⟩ := ImageDims.pixelAt_inside bound
    exact ⟨pixel, found, inside, ImageDims.index_of_pixelAt found⟩
  · have reread := ImageDims.ofDims_shapeWith image channels height width
    obtain rfl | rfl := List.mem_pair.1 either
    · exact same _ ▸ reread
    · exact reread
  · dsimp only
    rw [axis, Shape.coordinates_getElem?, own, List.getD_eq_getElem?_getD,
      ImageDims.extents_channelAxis]
    have channel := ImageDims.channel_of_position bound found
    exact ⟨congrArg some channel, channel⟩
  · rintro epsilon input output statistics derived rfl rfl call singles
    obtain ⟨folded, values, written, state, held, ran, each⟩ := call.normalizes singles read
    refine ⟨folded, values, written, state, held, ran, fun position pixel bound found => ?_⟩
    obtain ⟨_, again, inside⟩ := ImageDims.pixelAt_inside bound
    cases found.symm.trans again
    have element := each pixel inside
    rwa [ImageDims.index_of_pixelAt found] at element

section Witness

def untaggedImage : Tensor :=
  ⟨"x", ⟨[1, 2, 1, 2]⟩, .any, none, .external, .f32 #[1, 2, 3, 4]⟩

def channelStatistic (first second : Single) : Tensor :=
  ⟨"s", ⟨[2]⟩, .any, none, .constant, .f32 #[first, second]⟩

def untaggedStatistics : List Tensor :=
  [channelStatistic 1 2, channelStatistic 0 1, channelStatistic 0 0, channelStatistic 1 4]

theorem untaggedImage_corresponds :
    ImageDims.ofDims [1, 2, 1, 2] .any = .ok ⟨1, 2, 1, 2, false⟩ ∧
      (⟨1, 2, 1, 2, false⟩ : ImageDims).pixelAt 2 = .ok ⟨0, 1, 0, 0⟩ ∧
      (Shape.coordinates [1, 2, 1, 2] 2)[1]? = some 1 ∧
      ∃ folded written value scale shift,
        batchNormKernel.run ⟨.batchNorm 0, untaggedImage :: untaggedStatistics, [untaggedImage],
          some (.foldedNorm folded)⟩ = ⟨[untaggedImage.withSingles written], .ok ()⟩ ∧
        folded.scale[1]? = some scale ∧ folded.shift[1]? = some shift ∧
        written[2]? = some (value * scale + shift) := by
  have read : ImageDims.ofDims [1, 2, 1, 2] .any = .ok ⟨1, 2, 1, 2, false⟩ := rfl
  have found : (⟨1, 2, 1, 2, false⟩ : ImageDims).pixelAt 2 = .ok ⟨0, 1, 0, 0⟩ := rfl
  have sized : ∀ tensor ∈ untaggedImage :: untaggedStatistics, tensor.Sized := by
    unfold Tensor.Sized
    decide
  have call : PreparedCall foldBatchNorm (.batchNorm 0) (untaggedImage :: untaggedStatistics)
      untaggedImage (some (.foldedNorm (.fold #[1, 2] #[0, 1] #[0, 0] #[1, 4] 0))) :=
    ⟨rfl, fun _ _ same => by cases same; rfl, List.forall_mem_cons.2 ⟨sized _ (by simp), sized⟩, _,
      rfl, sized, rfl⟩
  obtain ⟨_, _, _, channel, norm⟩ := pixels_and_positions_correspond read
  obtain ⟨folded, values, written, state, _, ran, each⟩ :=
    norm 0 untaggedImage untaggedImage untaggedStatistics _ rfl rfl call (by decide)
  rw [state] at ran
  obtain ⟨value, scale, shift, _, scaled, shifted, element⟩ :=
    each 2 ⟨0, 1, 0, 0⟩ (by decide) found
  exact ⟨read, found, (channel 2 ⟨0, 1, 0, 0⟩ (by decide) found).1, folded, written, value, scale,
    shift, ran, scaled, shifted, element⟩

end Witness

end TensorRuntime
