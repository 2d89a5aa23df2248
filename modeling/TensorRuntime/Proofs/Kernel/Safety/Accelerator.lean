import TensorRuntime.Proofs.Kernel.Safety.Lanes
import TensorRuntime.Proofs.Numeric.Quotient

/-!
The accelerator never aborts where there are output channels. Its staged weights have the
extents of the weights at hand, and the bounds of every activation are in order.
-/

namespace TensorRuntime

open Attempt

namespace StagedWeights

structure HasExtents (staged : StagedWeights) (outs ins height width : Nat) : Prop where
  outChannels : staged.outChannels = outs
  inPerGroup : staged.inPerGroup = ins
  kernelHeight : staged.kernelHeight = height
  kernelWidth : staged.kernelWidth = width
  centered : staged.centered.size = outs * ins * height * width
  scales : staged.scales.size = outs
  bias : ∀ start, staged.bias = some start → start.size = outs

variable {staged : StagedWeights} {outs ins height width : Nat}

theorem hasExtents_of_stage [Host] {op : AcceleratorOp} {weights : Tensor} {bias : Option Tensor}
    {routine : String} (sized : weights.Sized)
    (found : extents op weights.dims = .ok (outs, ins, height, width))
    (count : weights.count = outs * ins * height * width)
    (biasDims : ∀ start, bias = some start → start.dims = [outs])
    (done : stage op weights bias routine = .ok staged) :
    staged.HasExtents outs ins height width := by
  unfold stage at done
  rw [found] at done
  simp only [bind_eq_ok, lift_eq_ok, pure_eq_ok] at done
  obtain ⟨_, _, record, _, stored, read, _, same, affines, paired, unpacked, repacked, values,
    biasRead, rfl⟩ := done
  cases same
  have channels : affines.length = outs := by
    have lengths := congrArg List.length (mapM_eq_ok.1 paired)
    simpa using lengths.symm
  have size : unpacked.size = outs * ins * height * width := by
    rw [size_of_repack repacked, sized.stored (Tensor.storedFor_eq_ok.1 read).2, count]
  exact ⟨rfl, rfl, rfl, rfl, by simpa using size, by simpa using channels,
    size_of_realBias biasDims biasRead⟩

theorem taps_start (outChannel row column : Nat) :
    outChannel * ins * height * width + (row * width + column) * ins =
      ((outChannel * height + row) * width + column) * ins := by
  simp only [Nat.add_mul]
  ac_rfl

variable (has : staged.HasExtents outs ins height width)

include has

theorem safe_taps {outChannel row column : Nat} (outBound : outChannel < outs)
    (rowBound : row < height) (columnBound : column < width) :
    (staged.taps outChannel row column).Safe := by
  unfold taps
  rw [has.inPerGroup, has.kernelHeight, has.kernelWidth, taps_start]
  apply safe_readRun
  rw [has.centered]
  exact packed_run_le outBound rowBound columnBound

theorem safe_biases (inputScale : Single) : (staged.biases inputScale).Safe := by
  refine safe_tabulate fun outChannel bound => ?_
  rw [has.outChannels] at bound
  split
  · exact safe_pure _
  · rename_i bias present
    refine (safe_readAt (has.scales ▸ bound)).bind fun scale _ => ?_
    dsimp only
    split
    · exact (safe_readAt (has.bias bias present ▸ bound)).bind fun _ _ => safe_pure _
    · exact safe_pure _

end StagedWeights

theorem stageWeights_eq_ok [Host] {op : AcceleratorOp} {routine : String} {params : Params}
    {inputs : List Tensor} {derived : Option Derived}
    (hooked : stageWeights op routine params inputs = .ok derived) :
    ∃ weights staged, inputs[1]? = some weights ∧
      StagedWeights.stage op weights inputs[2]? routine = .ok staged ∧
      derived = some (.stagedWeights staged) := by
  have stages : (do
      let weights ← liftM (Call.input ⟨params, inputs, [], none⟩ 1 routine)
      return some (.stagedWeights (← StagedWeights.stage op weights inputs[2]? routine)) :
        Attempt (Option Derived)) = .ok derived := by
    unfold stageWeights at hooked
    dsimp only at hooked
    split at hooked
    · exact hooked
    · exact hooked
    · cases hooked
  simp only [bind_eq_ok, lift_eq_ok, pure_eq_ok] at stages
  obtain ⟨weights, found, staged, done, rfl⟩ := stages
  exact ⟨weights, staged, Call.input_eq_ok.1 found, done, rfl⟩

theorem PreparedCall.staged [Host] {op : AcceleratorOp} {routine : String} {params : Params}
    {input weights output : Tensor} {rest : List Tensor} {derived : Option Derived}
    (call : PreparedCall (stageWeights op routine) params (input :: weights :: rest) output
      derived) {outChannels inPerGroup kernelHeight kernelWidth : Nat}
    (extents : StagedWeights.extents op weights.dims =
      .ok (outChannels, inPerGroup, kernelHeight, kernelWidth))
    (count : weights.count = outChannels * inPerGroup * kernelHeight * kernelWidth)
    (biasDims : ∀ start, rest[0]? = some start → start.dims = [outChannels]) :
    ∃ staged, derived = some (.stagedWeights staged) ∧
      staged.HasExtents outChannels inPerGroup kernelHeight kernelWidth := by
  obtain ⟨earlier, hooked, _, seen⟩ := call.seen
  obtain ⟨earlierWeights, staged, found, done, rfl⟩ := stageWeights_eq_ok hooked
  obtain ⟨operand, present, signature, sized⟩ := seen 1 earlierWeights found
  cases present
  have dims := Tensor.dims_of_signature signature
  refine ⟨staged, rfl, StagedWeights.hasExtents_of_stage sized (dims ▸ extents)
    ((congrArg volume dims).trans count) (fun start listed => ?_) done⟩
  obtain ⟨bias, held, same, _⟩ := seen 2 start listed
  rw [Tensor.dims_of_signature same]
  exact biasDims bias held

theorem PreparedCall.stagedConv [Host] {routine : String} {settings : ConvParams}
    {inputs : List Tensor} {output : Tensor} {derived : Option Derived}
    (call : PreparedCall (stageWeights .conv routine) (.conv2d settings) inputs output derived) :
    ∃ input weights rest staged, ∃ extents : ConvExtents, inputs = input :: weights :: rest ∧
      extents.settings = settings ∧ extents.Describes input weights rest output ∧
      derived = some (.stagedWeights staged) ∧
      staged.HasExtents extents.outChannels extents.perGroup extents.kernelHeight
        extents.kernelWidth := by
  obtain ⟨input, weights, rest, extents, rfl, own, describes⟩ := call.conv
  obtain ⟨staged, held, has⟩ := call.staged (by rw [describes.kernel]; rfl)
    describes.weights_count describes.bias
  exact ⟨input, weights, rest, staged, extents, rfl, own, describes, held, has⟩

section Staged

variable {routine : String} {body : StagedWeights → Call → Attempt Tensor} {call : Call}

theorem withStaged_cases :
    (∃ staged, call.derived = some (.stagedWeights staged) ∧
      withStaged routine body call = body staged call) ∨
    ∃ error, withStaged routine body call = refuse error := by
  unfold withStaged
  split
  · rename_i staged found
    obtain ⟨derived, held, viewed⟩ := Option.bind_eq_some_iff.1 found
    cases derived with
    | stagedWeights own =>
        cases viewed
        exact .inl ⟨_, held, rfl⟩
    | _ => cases viewed
  · exact .inr ⟨_, rfl⟩

theorem safe_withStaged (safe : ∀ staged, call.derived = some (.stagedWeights staged) →
    (body staged call).Safe) : (withStaged routine body call).Safe := by
  obtain ⟨staged, held, runs⟩ | ⟨error, refused⟩ :=
    @withStaged_cases routine body call
  · rw [runs]
    exact safe staged held
  · rw [refused]
    exact safe_refuse error

theorem withStaged_eq_ok {result : Tensor} (done : withStaged routine body call = .ok result) :
    ∃ staged, call.derived = some (.stagedWeights staged) ∧ body staged call = .ok result := by
  obtain ⟨staged, held, runs⟩ | ⟨error, refused⟩ :=
    @withStaged_cases routine body call
  · exact ⟨staged, held, runs ▸ done⟩
  · rw [refused] at done
    cases done

end Staged

section Output

theorem Tensor.Valid.check_of_affineFor {tensor : Tensor} (valid : tensor.Valid)
    (bytes : tensor.elementType = .i8) {routine : String} {affine : Affine}
    (found : tensor.affineFor routine = .ok affine) : affine.check .i8 (-128, 127) = .ok () := by
  have ranged : tensor.elementType.intRange? = some (-128, 127) := by
    rw [bytes]
    rfl
  have checked := valid.check_of_perTensor ranged (quantization_of_affineFor found)
  rwa [bytes] at checked

structure OutputStage.Fits (stage : OutputStage) (outChannels : Nat) : Prop where
  requantizers : stage.requantizers.size = outChannels
  biases : stage.biases.size = outChannels
  ordered : stage.bounds.1 ≤ stage.bounds.2

variable {stage : OutputStage} {outChannels : Nat}

theorem OutputStage.Fits.safe_store (fits : stage.Fits outChannels) {outChannel : Nat}
    (bound : outChannel < outChannels) (sum : Int) : (stage.store outChannel sum).Safe :=
  (safe_readAt (fits.requantizers ▸ bound)).bind fun _ _ =>
    safe_assert (Int.not_lt.2 fits.ordered) (safe_pure _)

theorem OutputStage.fits_of_build {staged : StagedWeights}
    {inPerGroup kernelHeight kernelWidth : Nat}
    (has : staged.HasExtents outChannels inPerGroup kernelHeight kernelWidth) {output : Tensor}
    (valid : output.Valid) (bytes : output.elementType = .i8) {routine : String} {affine : Affine}
    (found : output.affineFor routine = .ok affine) {inputScale : Single}
    {activation : FusedActivation}
    (built : build staged inputScale affine activation = .ok stage) : stage.Fits outChannels := by
  unfold build at built
  simp only [bind_eq_ok, pure_eq_ok] at built
  obtain ⟨biases, tabulated, rfl⟩ := built
  refine ⟨?_, (size_of_tabulate tabulated).trans has.outChannels,
    activationBounds_ordered (valid.check_of_affineFor bytes found) activation⟩
  simpa [StagedWeights.requantizers] using has.scales

end Output

section Convolution

variable {extents : ConvExtents} {staged : StagedWeights}

theorem safe_stagedConvSum {stored : Array Int} (size : stored.size = extents.image.count)
    (last : extents.image.channelsLast = true)
    (has : staged.HasExtents extents.outChannels extents.perGroup extents.kernelHeight
      extents.kernelWidth) {pixel : Pixel} (batch : pixel.batch < extents.image.batch)
    (channel : pixel.channel < extents.outChannels) (zeroPoint start : Int) :
    (stagedConvSum extents.settings stored extents.image zeroPoint staged
      (pixel.channel / extents.outPerGroup) pixel start).Safe := by
  have group : pixel.channel / extents.outPerGroup < extents.settings.groups :=
    (Nat.div_lt_iff_lt_mul (ConvExtents.outPerGroup_pos channel)).2 channel
  refine Safe.bind (safe_foldlM_of_steps fun tap member sum => ?_) fun _ _ => safe_pure _
  rw [has.kernelHeight, has.kernelWidth] at member
  obtain ⟨⟨row, column⟩, imageRow, imageColumn⟩ := inside_of_convTaps member
  refine Safe.bind (safe_readRun ?_) fun inputs _ =>
    (StagedWeights.safe_taps has channel row column).bind fun _ _ => safe_pure _
  rw [size, has.inPerGroup]
  refine ImageDims.run_le_count last batch ?_ imageRow imageColumn
  rw [extents.channels, ← Nat.add_one_mul]
  exact Nat.mul_le_mul_right _ group

theorem acceleratorConvBody_safe [Host] {op : OpKind} {routine : String} {params : Params}
    {inputs : List Tensor} {output : Tensor}
    (call : AdmittedCall (stageWeights .conv routine) op params inputs output
      (some (.stagedWeights staged))) (rows : output.dims.getLast? ≠ some 0) :
    (acceleratorConvBody staged
      ⟨params, inputs, [output], some (.stagedWeights staged)⟩).Safe := by
  cases params with
  | conv2d settings =>
      obtain ⟨input, weights, rest, _, extents, rfl, rfl, describes, same, has⟩ := call.stagedConv
      cases same
      have sized := call.sized
      unfold acceleratorConvBody
      refine .bind_lift fun _ found => ?_
      cases found
      refine .bind_lift fun affine _ => .bind_lift fun _ found => ?_
      cases describes.image.symm.trans found
      refine safe_guard fun notFirst => ?_
      have last : extents.image.channelsLast = true := by simpa using notFirst
      refine Tensor.safe_bind_bytes (sized input (by simp)) fun stored size _ => ?_
      refine .bind_lift fun _ found => ?_
      cases found
      refine .bind_lift fun outAffine outRecord => .bind_lift fun _ found => ?_
      rw [← ImageDims.layout_of_last last] at found
      cases describes.outDims.symm.trans found
      refine Safe.bind ((StagedWeights.safe_biases has _).bind fun _ _ => safe_pure _)
        fun stage built => ?_
      refine Tensor.safe_bind_bytes (sized output (by simp)) fun old oldSize bytes => ?_
      have fits := OutputStage.fits_of_build has (call.valid output (by simp)) bytes outRecord built
      have wide := (describes.outChannels_pos last).2 rows
      have outPerGroup : staged.outChannels / max extents.settings.groups 1 =
          extents.outPerGroup := by
        rw [has.outChannels, Nat.max_eq_left extents.grouped, extents.outPerGroup_eq]
      dsimp only
      rw [outPerGroup, has.outChannels]
      refine (safe_nonzero wide).bind fun _ _ => Safe.bind (safe_tabulate fun index bound => ?_)
        fun _ _ => Tensor.safe_withStored (by rw [bytes]; rfl) _
      rw [oldSize, describes.output_count] at bound
      obtain ⟨_, height, width⟩ := ImageDims.positive_of_count bound
      have channel := Nat.mod_lt index wide
      have batch : index / extents.outChannels / (extents.outImage.width *
          extents.outImage.height) < extents.image.batch := by
        rw [← Nat.div_div_eq_div_mul]
        exact (ImageDims.pixelOf_inside bound).1
      refine (safe_nonzero width).bind fun _ _ => (safe_nonzero height).bind fun _ _ => ?_
      refine (safe_nonzero (ConvExtents.outPerGroup_pos channel)).bind fun _ _ => ?_
      refine (safe_readAt (fits.biases ▸ channel)).bind fun start _ => ?_
      exact (safe_stagedConvSum (size.trans describes.input_count) last has batch channel _
        start).bind fun sum _ => fits.safe_store channel sum
  | _ => exact safe_refuse _

theorem channels_of_acceleratorConvBody [Host] {op : OpKind} {routine : String} {params : Params}
    {inputs : List Tensor} {output result : Tensor}
    (call : AdmittedCall (stageWeights .conv routine) op params inputs output
      (some (.stagedWeights staged)))
    (done : acceleratorConvBody staged
      ⟨params, inputs, [output], some (.stagedWeights staged)⟩ = .ok result) :
    output.dims.getLast? ≠ some 0 := by
  cases params with
  | conv2d settings =>
      obtain ⟨input, weights, rest, _, extents, rfl, rfl, describes, same, has⟩ := call.stagedConv
      cases same
      unfold acceleratorConvBody at done
      simp only [bind_eq_ok, lift_eq_ok, guard_eq_ok] at done
      obtain ⟨_, found, _, _, _, read, notFirst, _, _, _, _, _, _, _, _, _, _, _, _, _, divided,
        _⟩ := done
      cases found
      cases describes.image.symm.trans read
      have positive := pos_of_nonzero divided
      rw [has.outChannels] at positive
      exact (describes.outChannels_pos (by simpa using notFirst)).1 positive
  | _ => cases done

end Convolution

section FullyConnected

theorem PreparedCall.stagedLayer [Host] {activation : FusedActivation} {routine : String}
    {inputs : List Tensor} {output : Tensor} {derived : Option Derived}
    (call : PreparedCall (stageWeights .fullyConnected routine) (.fullyConnected activation) inputs
      output derived) :
    ∃ input weights rest rows inner outs staged, inputs = input :: weights :: rest ∧
      input.dims = [rows, inner] ∧ output.dims = [rows, outs] ∧
      derived = some (.stagedWeights staged) ∧ staged.HasExtents outs inner 1 1 := by
  obtain ⟨input, weights, rest, rows, inner, outs, rfl, inputDims, weightDims, outputDims,
    biasDims⟩ := call.layer
  have count : weights.count = outs * inner * 1 * 1 := by
    change volume weights.dims = _
    rw [weightDims]
    simp
  obtain ⟨staged, held, has⟩ := call.staged (by rw [weightDims]; rfl) count biasDims
  exact ⟨input, weights, rest, rows, inner, outs, staged, rfl, inputDims, outputDims, held, has⟩

theorem acceleratorFullyConnectedBody_safe [Host] {staged : StagedWeights} {op : OpKind}
    {routine : String} {params : Params} {inputs : List Tensor} {output : Tensor}
    (call : AdmittedCall (stageWeights .fullyConnected routine) op params inputs output
      (some (.stagedWeights staged))) (columns : output.dims.getLast? ≠ some 0) :
    (acceleratorFullyConnectedBody staged
      ⟨params, inputs, [output], some (.stagedWeights staged)⟩).Safe := by
  cases params with
  | fullyConnected activation =>
      obtain ⟨input, weights, rest, rows, inner, outs, _, rfl, inputDims, outputDims, same, has⟩ :=
        call.stagedLayer
      cases same
      have last : output.dims.getLast? = some outs := by rw [outputDims]; rfl
      have wide := (pos_iff_lastFilled last).2 columns
      have sized := call.sized
      unfold acceleratorFullyConnectedBody
      refine .bind_lift fun _ found => ?_
      cases found
      refine .bind_lift fun affine _ => ?_
      refine Tensor.safe_bind_bytes (sized input (by simp)) fun stored size _ => ?_
      refine .bind_lift fun _ found => ?_
      cases found
      refine .bind_lift fun outAffine outRecord => ?_
      refine Safe.bind ((StagedWeights.safe_biases has _).bind fun _ _ => safe_pure _)
        fun stage built => ?_
      refine Tensor.safe_bind_bytes (sized output (by simp)) fun old oldSize bytes => ?_
      have fits := OutputStage.fits_of_build has (call.valid output (by simp)) bytes outRecord built
      have inputSize := size.trans (Tensor.count_of_matrix inputDims)
      have outputSize := oldSize.trans (Tensor.count_of_matrix outputDims)
      rw [has.outChannels, has.inPerGroup]
      refine (safe_nonzero wide).bind fun _ _ => Safe.bind (safe_tabulate fun index bound => ?_)
        fun _ _ => Tensor.safe_withStored (by rw [bytes]; rfl) _
      have column := Nat.mod_lt index wide
      have row : index / outs < rows := (Nat.div_lt_iff_lt_mul wide).2 (outputSize ▸ bound)
      refine Safe.bind (safe_readRun ?_) fun _ _ => ?_
      · rw [inputSize, ← Nat.add_one_mul]
        exact Nat.mul_le_mul_right inner row
      · exact (StagedWeights.safe_taps has column Nat.one_pos Nat.one_pos).bind fun _ _ =>
          (safe_readAt (fits.biases ▸ column)).bind fun _ _ => fits.safe_store column _
  | _ => exact safe_refuse _

theorem columns_of_acceleratorFullyConnectedBody [Host] {staged : StagedWeights} {op : OpKind}
    {routine : String} {params : Params} {inputs : List Tensor} {output result : Tensor}
    (call : AdmittedCall (stageWeights .fullyConnected routine) op params inputs output
      (some (.stagedWeights staged)))
    (done : acceleratorFullyConnectedBody staged
      ⟨params, inputs, [output], some (.stagedWeights staged)⟩ = .ok result) :
    output.dims.getLast? ≠ some 0 := by
  cases params with
  | fullyConnected activation =>
      obtain ⟨input, weights, rest, rows, inner, outs, _, rfl, _, outputDims, same, has⟩ :=
        call.stagedLayer
      cases same
      unfold acceleratorFullyConnectedBody at done
      simp only [bind_eq_ok, lift_eq_ok] at done
      obtain ⟨_, _, _, _, _, _, _, _, _, _, _, _, _, _, _, divided, _⟩ := done
      have positive := pos_of_nonzero divided
      rw [has.outChannels] at positive
      have last : output.dims.getLast? = some outs := by rw [outputDims]; rfl
      exact (pos_iff_lastFilled last).1 positive
  | _ => cases done

end FullyConnected

end TensorRuntime
