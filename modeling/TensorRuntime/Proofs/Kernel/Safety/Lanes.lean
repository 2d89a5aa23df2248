import TensorRuntime.Proofs.Kernel.RowConvolution
import TensorRuntime.Proofs.Kernel.Safety.Convolution
import TensorRuntime.Proofs.Kernel.Safety.Rows
import TensorRuntime.Resolution

/-!
Convolutions over rows of lanes never abort where the rows hold anything. A row without
channels is cut from the output by a division that they do not survive.
-/

namespace TensorRuntime

open Attempt

theorem channelsLastDims_eq_ok {tensor : Tensor} {routine : String} {image : ImageDims} :
    channelsLastDims tensor routine = .ok image ↔
      ImageDims.ofTensor tensor = .ok image ∧ image.channelsLast = true := by
  unfold channelsLastDims
  rw [bind_eq_ok]
  constructor
  · rintro ⟨own, found, checked⟩
    split at checked
    · cases checked
      exact ⟨found, by assumption⟩
    · cases checked
  · rintro ⟨found, last⟩
    exact ⟨image, found, if_pos last⟩

theorem ImageDims.layout_of_last {image : ImageDims} (last : image.channelsLast = true) :
    image.layout = .nhwc := if_pos last

namespace ConvExtents

variable {extents : ConvExtents}

theorem Describes.getLast?_eq {input weights output : Tensor} {rest : List Tensor}
    (describes : extents.Describes input weights rest output)
    (last : extents.image.channelsLast = true) :
    output.dims.getLast? = some extents.outChannels := by
  rw [Tensor.dims, describes.output, ImageDims.shapeWith, if_pos last]
  rfl

theorem Describes.outChannels_pos {input weights output : Tensor} {rest : List Tensor}
    (describes : extents.Describes input weights rest output)
    (last : extents.image.channelsLast = true) :
    0 < extents.outChannels ↔ output.dims.getLast? ≠ some 0 :=
  pos_iff_lastFilled (describes.getLast?_eq last)

theorem perGroup_le (extents : ConvExtents) : extents.perGroup ≤ extents.image.channels := by
  rw [extents.channels]
  exact Nat.le_mul_of_pos_left _ extents.grouped

end ConvExtents

namespace RowConvolution

variable {α : Type} {conv : RowConvolution α} {extents : ConvExtents} {hook : Precompute}
  {input weights output : Tensor} {rest : List Tensor} {derived : Option Derived} {packed : α}

theorem body_safe
    (call : PreparedCall hook (.conv2d extents.settings) (input :: weights :: rest) output derived)
    (describes : extents.Describes input weights rest output)
    (held : derived.bind conv.held? = some packed)
    (channels : conv.outChannels packed = extents.outChannels)
    (rows : output.dims.getLast? ≠ some 0)
    (safe : extents.image.channelsLast = true → ∀ (values : Array Single) bias,
      values.size = extents.image.count →
      (∀ start, bias = some start → start.size = extents.outChannels) →
      ∀ batch < extents.image.batch, ∀ outRow outColumn,
        (conv.row extents.settings values extents.image packed bias extents.outChannels batch
          outRow outColumn).Safe) :
    (conv.body extents.settings
      ⟨.conv2d extents.settings, input :: weights :: rest, [output], derived⟩).Safe := by
  have sized := call.sized
  unfold body
  refine .bind_lift fun _ found => ?_
  cases found
  refine .bind_lift fun _ found => ?_
  cases found
  refine .bind_lift fun bias biasRead => ?_
  have biasSize := call.size_of_bias describes.bias biasRead
  refine .bind_lift fun _ found => ?_
  obtain ⟨found, last⟩ := channelsLastDims_eq_ok.1 found
  cases describes.image.symm.trans found
  dsimp only
  rw [held]
  refine .bind_ok rfl (.bind_lift fun _ found => ?_)
  cases found
  refine .bind_lift fun _ found => ?_
  rw [← ImageDims.layout_of_last last] at found
  cases describes.outDims.symm.trans found
  refine Tensor.safe_bind_singles (sized input (by simp)) fun values size => ?_
  refine Call.safe_bind_output (sized output (by simp)) fun old oldSize => ?_
  refine Safe.map _ ?_
  rw [channels]
  change (tabulateRows extents.outImage.channels extents.outImage old _).Safe
  refine safe_tabulateRows (oldSize.trans describes.output_count)
    ((describes.outChannels_pos last).2 rows) ?_
  intro batch batchBound outRow outColumn
  exact safe last values bias (size.trans describes.input_count) biasSize batch batchBound _ _

theorem channels_of_body (describes : extents.Describes input weights rest output)
    (held : derived.bind conv.held? = some packed)
    (channels : conv.outChannels packed = extents.outChannels) {result : Tensor}
    (done : conv.body extents.settings
      ⟨.conv2d extents.settings, input :: weights :: rest, [output], derived⟩ = .ok result) :
    output.dims.getLast? ≠ some 0 := by
  unfold body at done
  simp only [held, bind_eq_ok, lift_eq_ok, map_eq_ok] at done
  obtain ⟨_, found, _, _, _, _, _, read, _, taken, _, _, _, _, _, _, _, _, _, written, _⟩ := done
  cases found
  cases taken
  obtain ⟨read, last⟩ := channelsLastDims_eq_ok.1 read
  cases describes.image.symm.trans read
  have positive := width_of_tabulateRows written
  rw [channels] at positive
  exact (describes.outChannels_pos last).1 positive

end RowConvolution

section Plain

structure ConvExtents.FitsRows (extents : ConvExtents) (packed : LaneConvWeights) : Prop where
  inChannels : packed.inChannels = extents.perGroup
  outChannels : packed.outChannels = extents.outChannels
  kernelHeight : packed.kernelHeight = extents.kernelHeight
  kernelWidth : packed.kernelWidth = extents.kernelWidth
  size : packed.values.size = extents.weightCount

theorem PreparedCall.fitsRows {settings : ConvParams} {input weights output : Tensor}
    {rest : List Tensor} {derived : Option Derived}
    (call : PreparedCall packLaneConvWeights (.conv2d settings) (input :: weights :: rest)
      output derived) {extents : ConvExtents}
    (describes : extents.Describes input weights rest output) :
    ∃ packed, derived = some (.laneConvWeights packed) ∧ extents.FitsRows packed := by
  obtain ⟨values, packed, size, done, rfl⟩ :=
    call.packed LaneConvWeights.pack .laneConvWeights (fun _ => rfl) describes
  obtain ⟨reordered, repacked, built⟩ := bind_eq_ok.1 done
  cases built
  exact ⟨_, rfl, rfl, rfl, rfl, rfl, (size_of_repack repacked).trans size⟩

variable {extents : ConvExtents} {lanes : Nat}

theorem ConvExtents.FitsRows.safe_run {packed : LaneConvWeights} (fits : extents.FitsRows packed)
    {row column channel : Nat} (rowBound : row < extents.kernelHeight)
    (columnBound : column < extents.kernelWidth) (bound : channel < extents.perGroup) :
    (packed.run row column channel).Safe := by
  unfold LaneConvWeights.run
  rw [fits.kernelWidth, fits.inChannels, fits.outChannels]
  refine (safe_readRun ?_).map _
  rw [fits.size, ← Nat.add_one_mul]
  calc _ ≤ extents.kernelHeight * extents.kernelWidth * extents.perGroup * extents.outChannels :=
        Nat.mul_le_mul_right _ (place_lt (place_lt rowBound columnBound) bound)
    _ = extents.weightCount := by
        unfold weightCount
        ac_rfl

theorem safe_laneConvRow {values : Array Single} (size : values.size = extents.image.count)
    (last : extents.image.channelsLast = true) {packed : LaneConvWeights}
    (fits : extents.FitsRows packed) {bias : Option (Array Single)}
    (biasSize : ∀ start, bias = some start → start.size = extents.outChannels)
    {batch outRow outColumn : Nat} (batchBound : batch < extents.image.batch) :
    (laneConvRow lanes extents.settings values extents.image packed bias extents.outChannels batch
      outRow outColumn).Safe := by
  unfold laneConvRow
  refine (safe_startRow biasSize).bind fun start _ => Safe.bind ?_ fun _ _ => safe_pure _
  apply safe_foldlM_of_steps
  intro tap member sums
  rw [fits.kernelHeight, fits.kernelWidth] at member
  obtain ⟨⟨row, column⟩, imageRow, imageColumn⟩ := inside_of_convTaps member
  refine Safe.bind (safe_readRun ?_) fun inputs read => ?_
  · rw [size, fits.inChannels]
    exact ImageDims.run_le_count last batchBound (by simpa using extents.perGroup_le) imageRow
      imageColumn
  · have length : inputs.length = extents.perGroup :=
      (length_of_readRun read).trans fits.inChannels
    apply safe_foldlM_of_steps
    rintro ⟨value, channel⟩ listed sums
    have bound : channel < extents.perGroup := length ▸ List.snd_lt_of_mem_zipIdx listed
    exact (fits.safe_run row column bound).bind fun _ _ => safe_updateRow

theorem laneConvBody_safe {op : OpKind} {params : Params} {inputs : List Tensor} {output : Tensor}
    {derived : Option Derived}
    (call : AdmittedCall packLaneConvWeights op params inputs output derived)
    (rows : output.dims.getLast? ≠ some 0) :
    (laneConvBody lanes ⟨params, inputs, [output], derived⟩).Safe := by
  cases params with
  | conv2d settings =>
      obtain ⟨input, weights, rest, extents, rfl, rfl, describes⟩ := call.conv
      obtain ⟨packed, rfl, fits⟩ := call.fitsRows describes
      rw [laneConvBody_conv2d]
      refine safe_guard fun _ => ?_
      exact RowConvolution.body_safe call.toPreparedCall describes rfl fits.outChannels rows
        fun last _ _ size biasSize _ batchBound _ _ =>
          safe_laneConvRow size last fits biasSize batchBound
  | _ => exact safe_refuse _

theorem channels_of_laneConvBody {op : OpKind} {params : Params} {inputs : List Tensor}
    {output result : Tensor} {derived : Option Derived}
    (call : AdmittedCall packLaneConvWeights op params inputs output derived)
    (done : laneConvBody lanes ⟨params, inputs, [output], derived⟩ = .ok result) :
    output.dims.getLast? ≠ some 0 := by
  cases params with
  | conv2d settings =>
      obtain ⟨input, weights, rest, extents, rfl, rfl, describes⟩ := call.conv
      obtain ⟨packed, rfl, fits⟩ := call.fitsRows describes
      rw [laneConvBody_conv2d, guard_eq_ok] at done
      exact RowConvolution.channels_of_body describes rfl fits.outChannels done.2
  | _ => cases done

end Plain

section Depthwise

structure ConvExtents.FitsChannels (extents : ConvExtents) (packed : LaneDepthwiseWeights) :
    Prop where
  channels : packed.channels = extents.outChannels
  kernelHeight : packed.kernelHeight = extents.kernelHeight
  kernelWidth : packed.kernelWidth = extents.kernelWidth
  size : packed.values.size = extents.weightCount

theorem PreparedCall.fitsChannels {settings : ConvParams} {input weights output : Tensor}
    {rest : List Tensor} {derived : Option Derived}
    (call : PreparedCall packLaneDepthwiseWeights (.conv2d settings) (input :: weights :: rest)
      output derived) {extents : ConvExtents}
    (describes : extents.Describes input weights rest output) :
    ∃ packed, derived = some (.laneDepthwiseWeights packed) ∧ extents.FitsChannels packed := by
  obtain ⟨values, packed, size, done, rfl⟩ :=
    call.packed LaneDepthwiseWeights.pack .laneDepthwiseWeights (fun _ => rfl) describes
  obtain ⟨reordered, repacked, built⟩ := bind_eq_ok.1 done
  cases built
  exact ⟨_, rfl, rfl, rfl, rfl, (size_of_repack repacked).trans size⟩

theorem groups_of_depthwise {settings : ConvParams} {input weights : Tensor} {rest : List Tensor}
    {image : ImageDims} (found : ImageDims.ofTensor input = .ok image)
    (classified : (Params.conv2d settings).classify (input :: weights :: rest) =
      .ok .depthwiseConv2d) : settings.groups = image.channels := by
  obtain ⟨own, read, _, _, kind⟩ := ConvParams.classify_eq_ok.1 classified
  cases found.symm.trans read
  split at kind
  · cases kind
  · split at kind
    · assumption
    · cases kind

variable {extents : ConvExtents} {lanes : Nat}

theorem ConvExtents.perGroup_of_depthwise (depthwise : extents.settings.groups =
    extents.image.channels) : extents.perGroup = 1 := by
  have channels := extents.channels
  rw [← depthwise] at channels
  exact Nat.eq_of_mul_eq_mul_left extents.grouped (by omega)

theorem ConvExtents.FitsChannels.safe_run {packed : LaneDepthwiseWeights}
    (fits : extents.FitsChannels packed) (single : extents.perGroup = 1) {row column : Nat}
    (rowBound : row < extents.kernelHeight) (columnBound : column < extents.kernelWidth) :
    (packed.run row column).Safe := by
  unfold LaneDepthwiseWeights.run
  rw [fits.kernelWidth, fits.channels]
  refine (safe_readRun ?_).map _
  rw [fits.size, ← Nat.add_one_mul]
  calc _ ≤ extents.kernelHeight * extents.kernelWidth * extents.outChannels :=
        Nat.mul_le_mul_right _ (place_lt rowBound columnBound)
    _ = extents.weightCount := by
        rw [weightCount, single]
        ac_rfl

theorem safe_laneDepthwiseStep {multiplier : Nat} {inputs taps sums : Array Single}
    (reach : ∀ channel < sums.size, 0 < multiplier ∧ channel / multiplier < inputs.size)
    (tapsSize : taps.size = sums.size) :
    (laneDepthwiseStep lanes multiplier inputs taps sums).Safe := by
  unfold laneDepthwiseStep
  split
  · exact safe_updateRow
  · refine safe_tabulate fun channel bound => ?_
    obtain ⟨positive, inside⟩ := reach channel bound
    exact (safe_nonzero positive).bind fun _ _ => (safe_readAt inside).bind fun _ _ =>
      (safe_readAt (tapsSize ▸ bound)).bind fun _ _ => (safe_readAt bound).bind fun _ _ =>
        safe_pure _

theorem safe_laneDepthwiseRow {values : Array Single} (size : values.size = extents.image.count)
    (last : extents.image.channelsLast = true)
    (depthwise : extents.settings.groups = extents.image.channels)
    {packed : LaneDepthwiseWeights} (fits : extents.FitsChannels packed)
    {bias : Option (Array Single)}
    (biasSize : ∀ start, bias = some start → start.size = extents.outChannels)
    {batch outRow outColumn : Nat} (batchBound : batch < extents.image.batch) :
    (laneDepthwiseRow lanes extents.settings values extents.image packed bias extents.outChannels
      batch outRow outColumn).Safe := by
  have multiplier : packed.channels / max extents.image.channels 1 = extents.outPerGroup := by
    rw [fits.channels, ← depthwise, Nat.max_eq_left extents.grouped, extents.outPerGroup_eq]
  unfold laneDepthwiseRow
  rw [multiplier]
  refine (safe_startRow biasSize).bind fun start started =>
    Safe.bind ?_ fun _ _ => safe_pure _
  refine safe_foldlM (fun sums : Row => sums.size = extents.outChannels)
    (size_of_startRow started) ?_ ?_
  · intro tap member sums sumsSize
    rw [fits.kernelHeight, fits.kernelWidth] at member
    obtain ⟨⟨row, column⟩, imageRow, imageColumn⟩ := inside_of_convTaps member
    refine Safe.bind (safe_readRun ?_) fun inputs inputsRead => ?_
    · rw [size]
      exact ImageDims.run_le_count last batchBound (by simp) imageRow imageColumn
    refine (fits.safe_run (ConvExtents.perGroup_of_depthwise depthwise) row column).bind
      fun taps tapsRead => ?_
    have tapsSize : taps.size = extents.outChannels := by
      obtain ⟨listed, read, rfl⟩ := map_eq_ok.1 tapsRead
      exact (length_of_readRun read).trans fits.channels
    refine safe_laneDepthwiseStep (fun channel bound => ?_) (tapsSize.trans sumsSize.symm)
    rw [sumsSize] at bound
    have positive := ConvExtents.outPerGroup_pos bound
    refine ⟨positive, ?_⟩
    rw [List.size_toArray, length_of_readRun inputsRead, ← depthwise]
    exact (Nat.div_lt_iff_lt_mul positive).2 bound
  · intro tap _ sums after sumsSize step
    simp only [bind_eq_ok] at step
    obtain ⟨_, _, _, _, step⟩ := step
    unfold laneDepthwiseStep at step
    split at step
    · rw [size_of_updateRow step, sumsSize]
    · rw [size_of_tabulate step, sumsSize]

theorem laneDepthwiseBody_safe {params : Params} {inputs : List Tensor} {output : Tensor}
    {derived : Option Derived}
    (call : AdmittedCall packLaneDepthwiseWeights .depthwiseConv2d params inputs output derived)
    (rows : output.dims.getLast? ≠ some 0) :
    (laneDepthwiseBody lanes ⟨params, inputs, [output], derived⟩).Safe := by
  cases params with
  | conv2d settings =>
      obtain ⟨input, weights, rest, extents, rfl, rfl, describes⟩ := call.conv
      have depthwise := groups_of_depthwise describes.image call.classified
      obtain ⟨packed, rfl, fits⟩ := call.fitsChannels describes
      rw [laneDepthwiseBody_conv2d]
      exact RowConvolution.body_safe call.toPreparedCall describes rfl fits.channels rows
        fun last _ _ size biasSize _ batchBound _ _ =>
          safe_laneDepthwiseRow size last depthwise fits biasSize batchBound
  | _ => exact safe_refuse _

theorem channels_of_laneDepthwiseBody {op : OpKind} {params : Params} {inputs : List Tensor}
    {output result : Tensor} {derived : Option Derived}
    (call : AdmittedCall packLaneDepthwiseWeights op params inputs output derived)
    (done : laneDepthwiseBody lanes ⟨params, inputs, [output], derived⟩ = .ok result) :
    output.dims.getLast? ≠ some 0 := by
  cases params with
  | conv2d settings =>
      obtain ⟨input, weights, rest, extents, rfl, rfl, describes⟩ := call.conv
      obtain ⟨packed, rfl, fits⟩ := call.fitsChannels describes
      rw [laneDepthwiseBody_conv2d] at done
      exact RowConvolution.channels_of_body describes rfl fits.channels done
  | _ => cases done

end Depthwise

end TensorRuntime
