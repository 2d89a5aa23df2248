import TensorRuntime.Proofs.Kernel.Rows
import TensorRuntime.Proofs.Windows

/-!
Convolution of images that have their channels last. The element by element loop over
weights packed by output channel and the row by row loops over weights packed by tap
add the same products in the same order.
-/

namespace TensorRuntime

open Attempt

/-- The arguments of a convolution, with sizes that fit each other. -/
structure Convolution where
  params : ConvParams
  image : ImageDims
  values : Array Single
  weights : Array Single
  bias : Option (Array Single)
  outPerGroup : Nat
  perGroup : Nat
  kernelHeight : Nat
  kernelWidth : Nat
  channelsLast : image.channelsLast = true
  channels : image.channels = params.groups * perGroup
  valuesSize : values.size = image.batch * image.height * image.width * image.channels
  weightsSize : weights.size =
    params.groups * outPerGroup * perGroup * kernelHeight * kernelWidth
  biasSize : ∀ start, bias = some start → start.size = params.groups * outPerGroup
  outPositive : 0 < outPerGroup
  inPositive : 0 < perGroup

namespace Convolution

variable (conv : Convolution)

def outChannels : Nat := conv.params.groups * conv.outPerGroup

def weightPlace (outChannel channel kernelRow kernelColumn : Nat) : Nat :=
  ((outChannel * conv.perGroup + channel) * conv.kernelHeight + kernelRow) * conv.kernelWidth +
    kernelColumn

def product (pixel : Pixel) (tap : Tap) (channel : Nat) : Single :=
  elementAt conv.values (conv.image.index ⟨pixel.batch,
      pixel.channel / conv.outPerGroup * conv.perGroup + channel, tap.row, tap.column⟩) *
    elementAt conv.weights
      (conv.weightPlace pixel.channel channel tap.kernelRow tap.kernelColumn)

def start (channel : Nat) : Single := conv.bias.elim 0 fun bias => elementAt bias channel

def taps (pixel : Pixel) : List Tap :=
  convTaps conv.params conv.kernelHeight conv.kernelWidth conv.image pixel.row pixel.column

def addTap (pixel : Pixel) (sum : Single) (tap : Tap) : Single :=
  (List.range conv.perGroup).foldl (fun sum channel => sum + conv.product pixel tap channel) sum

def element (pixel : Pixel) : Single :=
  conv.params.activation.apply
    ((conv.taps pixel).foldl (conv.addTap pixel) (conv.start pixel.channel))

end Convolution

theorem inside_of_convTaps {params : ConvParams} {kernelHeight kernelWidth : Nat}
    {image : ImageDims} {outRow outColumn : Nat} {tap : Tap}
    (member : tap ∈ convTaps params kernelHeight kernelWidth image outRow outColumn) :
    (tap.kernelRow < kernelHeight ∧ tap.kernelColumn < kernelWidth) ∧
      tap.row < image.height ∧ tap.column < image.width := by
  unfold convTaps at member
  rw [List.mem_flatMap] at member
  obtain ⟨kernelRow, rowMember, member⟩ := member
  split at member
  · cases member
  · rename_i row rowFound
    rw [List.mem_filterMap] at member
    obtain ⟨kernelColumn, columnMember, mapped⟩ := member
    obtain ⟨column, columnFound, rfl⟩ := Option.map_eq_some_iff.1 mapped
    exact ⟨⟨List.mem_range.1 rowMember, List.mem_range.1 columnMember⟩,
      tapCoordinate?_lt rowFound, tapCoordinate?_lt columnFound⟩

section Packing

variable {outChannels perGroup kernelHeight kernelWidth : Nat}

def unpackedPlace (perGroup kernelHeight kernelWidth index : Nat) : Nat :=
  ((index / perGroup / kernelWidth / kernelHeight * perGroup + index % perGroup) * kernelHeight +
    index / perGroup / kernelWidth % kernelHeight) * kernelWidth + index / perGroup % kernelWidth

theorem unpackedPlace_lt {index : Nat}
    (bound : index < outChannels * perGroup * kernelHeight * kernelWidth) :
    unpackedPlace perGroup kernelHeight kernelWidth index <
      outChannels * perGroup * kernelHeight * kernelWidth := by
  have positive := Nat.zero_lt_of_lt bound
  have width := Nat.pos_of_mul_pos_left positive
  have height := Nat.pos_of_mul_pos_left (Nat.pos_of_mul_pos_right positive)
  have channels := Nat.pos_of_mul_pos_left (Nat.pos_of_mul_pos_right
    (Nat.pos_of_mul_pos_right positive))
  refine place_lt (place_lt (place_lt ?_ (Nat.mod_lt _ channels)) (Nat.mod_lt _ height))
    (Nat.mod_lt _ width)
  rw [Nat.div_lt_iff_lt_mul height, Nat.div_lt_iff_lt_mul width, Nat.div_lt_iff_lt_mul channels]
  refine Nat.lt_of_lt_of_eq bound ?_
  ac_rfl

theorem unpackedPlace_run {outChannel channel kernelRow kernelColumn : Nat}
    (bound : channel < perGroup) (row : kernelRow < kernelHeight)
    (column : kernelColumn < kernelWidth) :
    unpackedPlace perGroup kernelHeight kernelWidth
      (((outChannel * kernelHeight + kernelRow) * kernelWidth + kernelColumn) * perGroup +
        channel) =
      ((outChannel * perGroup + channel) * kernelHeight + kernelRow) * kernelWidth +
        kernelColumn := by
  unfold unpackedPlace
  rw [place_div bound, place_mod bound, place_div column, place_mod column, place_div row,
    place_mod row]

def ConvWeights.packed (outChannels perGroup kernelHeight kernelWidth : Nat)
    (weights : Array Single) : ConvWeights :=
  ⟨outChannels, perGroup, kernelHeight, kernelWidth, arrayOf weights.size fun index =>
    elementAt weights (unpackedPlace perGroup kernelHeight kernelWidth index)⟩

variable {weights : Array Single}
  (size : weights.size = outChannels * perGroup * kernelHeight * kernelWidth)

include size

theorem ConvWeights.pack_eq : pack weights [outChannels, perGroup, kernelHeight, kernelWidth] =
    .ok (packed outChannels perGroup kernelHeight kernelWidth weights) := by
  unfold pack
  dsimp only
  rw [← size]
  refine bind_eq_ok.2 ⟨_, repack_elementAt _ _ fun index bound => ?_, rfl⟩
  rw [size] at bound ⊢
  exact unpackedPlace_lt bound

theorem ConvWeights.tap_packed {outChannel kernelRow kernelColumn : Nat}
    (outBound : outChannel < outChannels) (row : kernelRow < kernelHeight)
    (column : kernelColumn < kernelWidth) :
    (packed outChannels perGroup kernelHeight kernelWidth weights).tap outChannel kernelRow
      kernelColumn = .ok ((List.range perGroup).map fun channel => elementAt weights
        (((outChannel * perGroup + channel) * kernelHeight + kernelRow) * kernelWidth +
          kernelColumn)) := by
  have run : ((outChannel * kernelHeight + kernelRow) * kernelWidth + kernelColumn) * perGroup +
      perGroup ≤ weights.size := size ▸ packed_run_le outBound row column
  unfold tap packed
  dsimp only
  rw [readRun_elementAt (by rw [size_of_arrayOf]; exact run)]
  congr 1
  apply List.map_congr_left
  intro channel member
  have inGroup := List.mem_range.1 member
  rw [elementAt_arrayOf _ (by omega), unpackedPlace_run inGroup row column]

end Packing

theorem convElement_of_taps {params : ConvParams} {values : Array Single} {image : ImageDims}
    {weights : ConvWeights} {bias : Option (Array Single)} {outPerGroup : Nat} {pixel : Pixel}
    {start : Single} (weight : Tap → Nat → Single) (positive : 0 < outPerGroup)
    (started : startValue bias pixel.channel = .ok start)
    (each : ∀ tap ∈ convTaps params weights.kernelHeight weights.kernelWidth image pixel.row
        pixel.column,
      weights.tap pixel.channel tap.kernelRow tap.kernelColumn =
          .ok ((List.range weights.inPerGroup).map (weight tap)) ∧
        ∀ channel < weights.inPerGroup, image.index ⟨pixel.batch,
          pixel.channel / outPerGroup * weights.inPerGroup + channel, tap.row, tap.column⟩ <
            values.size) :
    convElement params values image weights bias outPerGroup pixel = .ok (params.activation.apply
      ((convTaps params weights.kernelHeight weights.kernelWidth image pixel.row
          pixel.column).foldl
        (fun sum tap => (List.range weights.inPerGroup).foldl (fun sum channel => sum +
          elementAt values (image.index ⟨pixel.batch,
            pixel.channel / outPerGroup * weights.inPerGroup + channel, tap.row, tap.column⟩) *
          weight tap channel) sum) start)) := by
  unfold convElement
  rw [nonzero, if_neg (by omega), started]
  refine bind_eq_ok.2 ⟨(), rfl, bind_eq_ok.2 ⟨_, rfl, bind_eq_ok.2 ⟨_, foldlM_of_ok ?_ start, rfl⟩⟩⟩
  intro tap member sum
  obtain ⟨run, inside⟩ := each tap member
  rw [run]
  change List.foldlM _ sum (List.zipIdx _) = _
  rw [zipIdx_map_range, List.foldlM_map]
  apply foldlM_of_ok
  intro channel listed value
  dsimp only
  rw [readAt_elementAt (inside channel (List.mem_range.1 listed))]
  rfl

namespace Convolution

variable {conv : Convolution}

theorem startValue_eq {channel : Nat} (bound : channel < conv.outChannels) :
    startValue conv.bias channel = .ok (conv.start channel) := by
  unfold startValue start
  cases given : conv.bias with
  | none => rfl
  | some bias => exact readAt_elementAt (by rw [conv.biasSize bias given]; exact bound)

theorem startRow_eq :
    startRow conv.bias conv.outChannels = .ok (arrayOf conv.outChannels conv.start) := by
  unfold startRow
  cases given : conv.bias with
  | none =>
      rw [pure_eq_ok]
      apply Array.ext
      · simp [size_of_arrayOf]
      · intro index first second
        simp [arrayOf, start, given]
  | some bias =>
      have size : bias.size = conv.outChannels := conv.biasSize bias given
      dsimp only
      rw [if_pos size, pure_eq_ok, ← size]
      refine (arrayOf_elementAt bias).symm.trans (arrayOf_congr fun index _ => ?_)
      simp [start, given]

theorem holds_of_tap {pixel : Pixel} {tap : Tap} (member : tap ∈ conv.taps pixel)
    (batch : pixel.batch < conv.image.batch) {channel : Nat}
    (bound : channel < conv.image.channels) :
    conv.image.Holds ⟨pixel.batch, channel, tap.row, tap.column⟩ :=
  ⟨batch, bound, (inside_of_convTaps member).2⟩

theorem index_lt {pixel : Pixel} (inside : conv.image.Holds pixel) :
    conv.image.index pixel < conv.values.size := by
  rw [conv.valuesSize]
  exact ImageDims.index_lt conv.channelsLast inside

theorem weightPlace_lt {outChannel channel kernelRow kernelColumn : Nat}
    (outBound : outChannel < conv.outChannels) (bound : channel < conv.perGroup)
    (row : kernelRow < conv.kernelHeight) (column : kernelColumn < conv.kernelWidth) :
    conv.weightPlace outChannel channel kernelRow kernelColumn < conv.weights.size := by
  rw [conv.weightsSize]
  exact place_lt (place_lt (place_lt outBound bound) row) column

section ByChannel

/-- The weights `[O, kh, kw, I/g]` that the element by element loop reads. -/
def byChannel (conv : Convolution) : ConvWeights :=
  ⟨conv.outChannels, conv.perGroup, conv.kernelHeight, conv.kernelWidth,
    arrayOf conv.weights.size fun index => elementAt conv.weights (conv.weightPlace
      (index / conv.perGroup / conv.kernelWidth / conv.kernelHeight) (index % conv.perGroup)
      (index / conv.perGroup / conv.kernelWidth % conv.kernelHeight)
      (index / conv.perGroup % conv.kernelWidth))⟩

theorem pack_byChannel : ConvWeights.pack conv.weights
    [conv.outChannels, conv.perGroup, conv.kernelHeight, conv.kernelWidth] = .ok conv.byChannel :=
  ConvWeights.pack_eq conv.weightsSize

theorem convElement_eq {pixel : Pixel} (batch : pixel.batch < conv.image.batch)
    (outBound : pixel.channel < conv.outChannels) :
    convElement conv.params conv.values conv.image conv.byChannel conv.bias conv.outPerGroup
      pixel = .ok (conv.element pixel) := by
  have group : pixel.channel / conv.outPerGroup < conv.params.groups :=
    (Nat.div_lt_iff_lt_mul conv.outPositive).2 outBound
  refine convElement_of_taps (fun tap channel => elementAt conv.weights
    (conv.weightPlace pixel.channel channel tap.kernelRow tap.kernelColumn)) conv.outPositive
    (startValue_eq outBound) fun tap member => ?_
  obtain ⟨⟨row, column⟩, _⟩ := inside_of_convTaps member
  refine ⟨ConvWeights.tap_packed conv.weightsSize outBound row column, fun channel bound => ?_⟩
  have inGroup : pixel.channel / conv.outPerGroup * conv.perGroup + channel <
      conv.image.channels := by
    rw [conv.channels]
    exact place_lt group bound
  exact index_lt (holds_of_tap member batch inGroup)

end ByChannel

section ByTap

/-- The weights `[kh, kw, I, O]` that the row by row loop of a plain convolution reads. -/
def byTap (conv : Convolution) : LaneConvWeights :=
  ⟨conv.kernelHeight, conv.kernelWidth, conv.perGroup, conv.outChannels,
    arrayOf conv.weights.size fun index => elementAt conv.weights (conv.weightPlace
      (index % conv.outChannels) (index / conv.outChannels % conv.perGroup)
      (index / conv.outChannels / conv.perGroup / conv.kernelWidth)
      (index / conv.outChannels / conv.perGroup % conv.kernelWidth))⟩

theorem pack_byTap (out : 0 < conv.outChannels) (width : 0 < conv.kernelWidth) :
    LaneConvWeights.pack conv.weights
      [conv.outChannels, conv.perGroup, conv.kernelHeight, conv.kernelWidth] = .ok conv.byTap := by
  have count : conv.outChannels * conv.perGroup * conv.kernelHeight * conv.kernelWidth =
      conv.weights.size := conv.weightsSize.symm
  have inside : ∀ index < conv.weights.size, conv.weightPlace (index % conv.outChannels)
      (index / conv.outChannels % conv.perGroup)
      (index / conv.outChannels / conv.perGroup / conv.kernelWidth)
      (index / conv.outChannels / conv.perGroup % conv.kernelWidth) < conv.weights.size := by
    intro index bound
    refine weightPlace_lt (Nat.mod_lt _ out) (Nat.mod_lt _ conv.inPositive) ?_ (Nat.mod_lt _ width)
    rw [Nat.div_lt_iff_lt_mul width, Nat.div_lt_iff_lt_mul conv.inPositive,
      Nat.div_lt_iff_lt_mul out]
    refine Nat.lt_of_lt_of_eq bound ?_
    rw [← count]
    ac_rfl
  unfold LaneConvWeights.pack
  dsimp only
  rw [count]
  exact bind_eq_ok.2 ⟨_, repack_elementAt _ _ inside, rfl⟩

theorem run_byTap {channel kernelRow kernelColumn : Nat} (bound : channel < conv.perGroup)
    (row : kernelRow < conv.kernelHeight) (column : kernelColumn < conv.kernelWidth) :
    conv.byTap.run kernelRow kernelColumn channel =
      .ok (arrayOf conv.outChannels fun outChannel =>
        elementAt conv.weights (conv.weightPlace outChannel channel kernelRow kernelColumn)) := by
  have fits : ((kernelRow * conv.kernelWidth + kernelColumn) * conv.perGroup + channel) *
      conv.outChannels + conv.outChannels ≤ conv.weights.size := by
    have inside : (kernelRow * conv.kernelWidth + kernelColumn) * conv.perGroup + channel <
        conv.kernelHeight * conv.kernelWidth * conv.perGroup :=
      place_lt (place_lt row column) bound
    calc _ = ((kernelRow * conv.kernelWidth + kernelColumn) * conv.perGroup + channel + 1) *
          conv.outChannels := (Nat.add_one_mul _ _).symm
      _ ≤ conv.kernelHeight * conv.kernelWidth * conv.perGroup * conv.outChannels :=
          Nat.mul_le_mul_right _ inside
      _ = conv.weights.size := by
          rw [conv.weightsSize]
          unfold outChannels
          ac_rfl
  unfold LaneConvWeights.run byTap
  dsimp only
  rw [readRun_elementAt (by rw [size_of_arrayOf]; exact fits)]
  change Except.ok (arrayOf _ _) = _
  congr 1
  apply arrayOf_congr
  intro outChannel inRow
  rw [elementAt_arrayOf _ (by omega), place_div inRow, place_mod inRow, place_div bound,
    place_mod bound, place_div column, place_mod column]

theorem laneConvRow_eq {lanes : Nat} (wide : 0 < lanes) (plain : conv.params.groups = 1)
    {batch outRow outColumn : Nat} (batchBound : batch < conv.image.batch) :
    laneConvRow lanes conv.params conv.values conv.image conv.byTap conv.bias conv.outChannels
      batch outRow outColumn =
        .ok (arrayOf conv.outChannels fun channel =>
          conv.element ⟨batch, channel, outRow, outColumn⟩) := by
  have channels : conv.image.channels = conv.perGroup := by
    rw [conv.channels, plain, Nat.one_mul]
  have step : ∀ tap ∈ conv.taps ⟨batch, 0, outRow, outColumn⟩, ∀ sums : Nat → Single, (do
      let inputs ← readRun conv.values (conv.image.index ⟨batch, 0, tap.row, tap.column⟩)
        conv.perGroup
      inputs.zipIdx.foldlM (fun sums (value, channel) => do
        let run ← conv.byTap.run tap.kernelRow tap.kernelColumn channel
        updateRow lanes sums [run] fun sum others => sum + value * others.headD 0)
        (arrayOf conv.outChannels sums)) =
      .ok (arrayOf conv.outChannels fun outChannel =>
        conv.addTap ⟨batch, outChannel, outRow, outColumn⟩ (sums outChannel) tap) := by
    intro tap member sums
    obtain ⟨⟨row, column⟩, imageRow, imageColumn⟩ := inside_of_convTaps member
    have fits := ImageDims.run_le conv.channelsLast batchBound imageRow imageColumn
    rw [← conv.valuesSize, channels] at fits
    rw [readRun_elementAt fits]
    change List.foldlM _ _ (List.zipIdx _) = _
    rw [zipIdx_map_range, List.foldlM_map]
    refine foldlM_rows (fun outChannel sum channel =>
      sum + conv.product ⟨batch, outChannel, outRow, outColumn⟩ tap channel) ?_ sums
    intro channel listed sums
    have bound := List.mem_range.1 listed
    dsimp only
    rw [run_byTap bound row column]
    refine (updateRow_arrayOf wide sums [fun outChannel => elementAt conv.weights
      (conv.weightPlace outChannel channel tap.kernelRow tap.kernelColumn)] _).trans
      (congrArg Except.ok (arrayOf_congr fun outChannel outBound => ?_))
    have firstGroup : outChannel / conv.outPerGroup = 0 := by
      apply Nat.div_eq_of_lt
      rwa [outChannels, plain, Nat.one_mul] at outBound
    unfold product
    dsimp only
    rw [firstGroup, Nat.zero_mul, Nat.zero_add, ← ImageDims.index_channel conv.channelsLast]
    rfl
  unfold laneConvRow
  rw [startRow_eq]
  refine bind_eq_ok.2 ⟨_, rfl, bind_eq_ok.2 ⟨_, foldlM_rows (fun channel =>
    conv.addTap ⟨batch, channel, outRow, outColumn⟩) step conv.start, ?_⟩⟩
  rw [pure_eq_ok, arrayOf_map]
  rfl

end ByTap

section Depthwise

/-- The weights `[kh, kw, O]` that the row by row loop of a depthwise convolution reads. -/
def byPosition (conv : Convolution) : LaneDepthwiseWeights :=
  ⟨conv.kernelHeight, conv.kernelWidth, conv.outChannels,
    arrayOf conv.weights.size fun index => elementAt conv.weights (conv.weightPlace
      (index % conv.outChannels) 0 (index / conv.outChannels / conv.kernelWidth)
      (index / conv.outChannels % conv.kernelWidth))⟩

variable (single : conv.perGroup = 1)

include single

theorem pack_byPosition (out : 0 < conv.outChannels) (width : 0 < conv.kernelWidth) :
    LaneDepthwiseWeights.pack conv.weights
      [conv.outChannels, conv.perGroup, conv.kernelHeight, conv.kernelWidth] =
        .ok conv.byPosition := by
  have count : conv.outChannels * conv.kernelHeight * conv.kernelWidth = conv.weights.size := by
    rw [conv.weightsSize, single, Nat.mul_one]
    rfl
  have inside : ∀ index < conv.weights.size, conv.weightPlace (index % conv.outChannels) 0
      (index / conv.outChannels / conv.kernelWidth) (index / conv.outChannels % conv.kernelWidth) <
        conv.weights.size := by
    intro index bound
    refine weightPlace_lt (Nat.mod_lt _ out) conv.inPositive ?_ (Nat.mod_lt _ width)
    rw [Nat.div_lt_iff_lt_mul width, Nat.div_lt_iff_lt_mul out]
    refine Nat.lt_of_lt_of_eq bound ?_
    rw [← count]
    ac_rfl
  have place : ∀ index : Nat, ((index % conv.outChannels) * conv.kernelHeight +
      index / conv.outChannels / conv.kernelWidth) * conv.kernelWidth +
        index / conv.outChannels % conv.kernelWidth =
      conv.weightPlace (index % conv.outChannels) 0 (index / conv.outChannels / conv.kernelWidth)
        (index / conv.outChannels % conv.kernelWidth) := by
    intro index
    rw [weightPlace, single, Nat.mul_one, Nat.add_zero]
  unfold LaneDepthwiseWeights.pack
  dsimp only
  simp only [count, place]
  exact bind_eq_ok.2 ⟨_, repack_elementAt _ _ inside, rfl⟩

theorem run_byPosition {kernelRow kernelColumn : Nat} (row : kernelRow < conv.kernelHeight)
    (column : kernelColumn < conv.kernelWidth) :
    conv.byPosition.run kernelRow kernelColumn =
      .ok (arrayOf conv.outChannels fun outChannel =>
        elementAt conv.weights (conv.weightPlace outChannel 0 kernelRow kernelColumn)) := by
  have fits : (kernelRow * conv.kernelWidth + kernelColumn) * conv.outChannels +
      conv.outChannels ≤ conv.weights.size := by
    have inside := place_lt row column
    calc _ = (kernelRow * conv.kernelWidth + kernelColumn + 1) * conv.outChannels :=
          (Nat.add_one_mul _ _).symm
      _ ≤ conv.kernelHeight * conv.kernelWidth * conv.outChannels :=
          Nat.mul_le_mul_right _ inside
      _ = conv.weights.size := by
          rw [conv.weightsSize, single, Nat.mul_one]
          unfold outChannels
          ac_rfl
  unfold LaneDepthwiseWeights.run byPosition
  dsimp only
  rw [readRun_elementAt (by rw [size_of_arrayOf]; exact fits)]
  change Except.ok (arrayOf _ _) = _
  congr 1
  apply arrayOf_congr
  intro outChannel inRow
  rw [elementAt_arrayOf _ (by omega), place_div inRow, place_mod inRow, place_div column,
    place_mod column]

theorem laneDepthwiseStep_eq {lanes : Nat} (wide : 0 < lanes) (inputs taps sums : Nat → Single) :
    laneDepthwiseStep lanes conv.outPerGroup (arrayOf conv.image.channels inputs)
      (arrayOf conv.outChannels taps) (arrayOf conv.outChannels sums) =
        .ok (arrayOf conv.outChannels fun channel =>
          sums channel + inputs (channel / conv.outPerGroup) * taps channel) := by
  have channels : conv.image.channels = conv.params.groups := by
    rw [conv.channels, single, Nat.mul_one]
  have positive := conv.outPositive
  unfold laneDepthwiseStep
  by_cases one : conv.outPerGroup = 1
  · have width : conv.image.channels = conv.outChannels := by
      rw [channels, outChannels, one, Nat.mul_one]
    rw [if_pos one, width]
    refine (updateRow_arrayOf wide sums [inputs, taps] _).trans
      (congrArg Except.ok (arrayOf_congr fun channel _ => ?_))
    rw [one, Nat.div_one]
    rfl
  · rw [if_neg one, size_of_arrayOf]
    apply tabulate_of_ok
    intro channel bound
    have group : channel / conv.outPerGroup < conv.image.channels := by
      rw [channels]
      exact (Nat.div_lt_iff_lt_mul positive).2 bound
    rw [nonzero, if_neg (by omega), readAt_arrayOf inputs group, readAt_arrayOf taps bound,
      readAt_arrayOf sums bound]
    rfl

theorem laneDepthwiseRow_eq {lanes : Nat} (wide : 0 < lanes) (grouped : 0 < conv.params.groups)
    {batch outRow outColumn : Nat} (batchBound : batch < conv.image.batch) :
    laneDepthwiseRow lanes conv.params conv.values conv.image conv.byPosition conv.bias
      conv.outChannels batch outRow outColumn =
        .ok (arrayOf conv.outChannels fun channel =>
          conv.element ⟨batch, channel, outRow, outColumn⟩) := by
  have channels : conv.image.channels = conv.params.groups := by
    rw [conv.channels, single, Nat.mul_one]
  have multiplier : conv.outChannels / max conv.image.channels 1 = conv.outPerGroup := by
    rw [channels, Nat.max_eq_left grouped, outChannels, Nat.mul_div_cancel_left _ grouped]
  have step : ∀ tap ∈ conv.taps ⟨batch, 0, outRow, outColumn⟩, ∀ sums : Nat → Single, (do
      let inputs ← readRun conv.values (conv.image.index ⟨batch, 0, tap.row, tap.column⟩)
        conv.image.channels
      let run ← conv.byPosition.run tap.kernelRow tap.kernelColumn
      laneDepthwiseStep lanes conv.outPerGroup inputs.toArray run
        (arrayOf conv.outChannels sums)) =
      .ok (arrayOf conv.outChannels fun outChannel =>
        conv.addTap ⟨batch, outChannel, outRow, outColumn⟩ (sums outChannel) tap) := by
    intro tap member sums
    obtain ⟨⟨row, column⟩, imageRow, imageColumn⟩ := inside_of_convTaps member
    have fits := ImageDims.run_le conv.channelsLast batchBound imageRow imageColumn
    rw [← conv.valuesSize] at fits
    rw [readRun_elementAt fits, run_byPosition single row column]
    refine (laneDepthwiseStep_eq single wide (fun channel => elementAt conv.values
      (conv.image.index ⟨batch, 0, tap.row, tap.column⟩ + channel)) _ sums).trans
      (congrArg Except.ok (arrayOf_congr fun outChannel _ => ?_))
    simp only [addTap, List.range_one, List.foldl_cons, List.foldl_nil, product, single,
      Nat.mul_one, Nat.add_zero]
    rw [← ImageDims.index_channel conv.channelsLast]
  unfold laneDepthwiseRow
  rw [startRow_eq]
  refine bind_eq_ok.2 ⟨_, rfl, ?_⟩
  change (List.foldlM _ _ _ >>= _) = _
  rw [show conv.byPosition.channels = conv.outChannels from rfl, multiplier]
  refine bind_eq_ok.2 ⟨_, foldlM_rows (fun channel =>
    conv.addTap ⟨batch, channel, outRow, outColumn⟩) step conv.start, ?_⟩
  rw [pure_eq_ok, arrayOf_map]
  rfl

end Depthwise

end Convolution

end TensorRuntime
