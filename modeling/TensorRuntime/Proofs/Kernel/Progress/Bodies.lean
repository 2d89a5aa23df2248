import TensorRuntime.Proofs.Kernel.Progress.Loops
import TensorRuntime.Proofs.Kernel.Safety.Catalogue

/-!
Kernels on singles. Shape inference, classification and the layouts that a kernel lists
have established everything it checks before its loop, so it refuses no prepared call.
-/

namespace TensorRuntime

open Attempt

section Arguments

variable {α : Type} {routine : String}

theorem Tensor.exists_singles {tensor : Tensor} (single : tensor.elementType = .f32) :
    ∃ values, tensor.buffer = .f32 values := by
  unfold elementType at single
  cases held : tensor.buffer with
  | f32 values => exact ⟨values, rfl⟩
  | f16 | i8 | u8 | i16 | i32 | bool =>
      rw [held] at single
      cases single

theorem Tensor.unrefused_singles {tensor : Tensor} (single : tensor.elementType = .f32) :
    (liftM (tensor.singlesFor routine) : Attempt (Array Single)).Unrefused := by
  obtain ⟨values, held⟩ := exists_singles single
  exact .of_ok (lift_eq_ok.2 (singlesFor_eq held routine))

theorem unrefused_biasFor {bias : Option Tensor}
    (single : ∀ tensor, bias = some tensor → tensor.elementType = .f32) :
    (liftM (biasFor bias routine) : Attempt (Option (Array Single))).Unrefused := by
  cases bias with
  | none => exact failsOnly_ok none
  | some tensor =>
      obtain ⟨values, held⟩ := Tensor.exists_singles (single tensor rfl)
      refine .of_ok (lift_eq_ok.2 (show biasFor (some tensor) routine = .ok (some values) from ?_))
      rw [biasFor, Tensor.singlesFor_eq held]
      rfl

theorem Call.unrefused_singleOutput {params : Params} {inputs : List Tensor} {output : Tensor}
    {derived : Option Derived} (single : output.elementType = .f32) :
    (liftM (singleOutput ⟨params, inputs, [output], derived⟩ routine) :
      Attempt (Tensor × Array Single)).Unrefused := by
  obtain ⟨values, held⟩ := Tensor.exists_singles single
  exact .of_ok (lift_eq_ok.2 (singleOutput_eq held routine))

theorem Tensor.bias_of_singles {inputs : List Tensor}
    (singles : ∀ tensor ∈ inputs, tensor.elementType = .f32) (place : Nat) :
    ∀ tensor, inputs[place]? = some tensor → tensor.elementType = .f32 :=
  fun tensor found => singles tensor (List.mem_of_getElem? found)

end Arguments

variable {hook : Precompute} {op : OpKind} {params : Params} {inputs : List Tensor}
  {output : Tensor} {derived : Option Derived}

section Images

theorem convBody_unrefused (call : PreparedCall hook params inputs output derived)
    (family : params.family = "conv2d")
    (singles : ∀ tensor ∈ output :: inputs, tensor.elementType = .f32) :
    (convBody ⟨params, inputs, [output], derived⟩).Unrefused := by
  cases params with
  | conv2d settings =>
      obtain ⟨input, weights, rest, extents, rfl, rfl, describes⟩ := call.conv
      unfold convBody
      refine .bind_ok rfl (.bind_ok rfl ?_)
      refine (unrefused_biasFor (Tensor.bias_of_singles (fun tensor member =>
        singles tensor (List.mem_cons_of_mem _ member)) 2)).bind fun bias _ => ?_
      refine .bind_ok (lift_eq_ok.2 describes.image) ?_
      refine (unrefused_derivedOr fun _ => (Tensor.unrefused_singles (singles weights
        (by simp))).bind fun _ _ => ConvWeights.unrefused_pack _ _).bind fun packed _ => ?_
      refine (Tensor.unrefused_singles (singles input (by simp))).bind fun values _ => ?_
      refine .bind_ok rfl (.bind_ok (lift_eq_ok.2 describes.outDims) ?_)
      refine (Call.unrefused_singleOutput (singles output (by simp))).bind fun old _ => ?_
      refine (unrefused_nonzero _).bind fun _ _ => (unrefused_tabulate fun index _ => ?_).map _
      exact (ImageDims.unrefused_pixelAt _ _).bind fun _ _ => unrefused_convElement _ _ _ _ _ _ _
  | _ => simp [Params.family] at family

theorem poolBody_unrefused (call : PreparedCall hook params inputs output derived)
    (family : params.family = "pool2d")
    (singles : ∀ tensor ∈ output :: inputs, tensor.elementType = .f32) :
    (poolBody ⟨params, inputs, [output], derived⟩).Unrefused := by
  cases params with
  | pool2d settings =>
      obtain ⟨input, others, image, outImage, rfl, images⟩ := call.poolImages
      unfold poolBody
      refine .bind_ok rfl (.bind_ok (lift_eq_ok.2 images.read) (.bind_ok rfl
        (.bind_ok (lift_eq_ok.2 images.written) ?_)))
      refine (Tensor.unrefused_singles (singles input (by simp))).bind fun values _ => ?_
      refine (Call.unrefused_singleOutput (singles output (by simp))).bind fun old _ => ?_
      refine (unrefused_tabulate fun index _ => ?_).map _
      exact (ImageDims.unrefused_pixelAt _ _).bind fun _ _ => unrefused_poolElement _ _ _ _
  | _ => simp [Params.family] at family

theorem layout_of_requested {input : Tensor} (requested : requestedLayout input = .nhwc) :
    input.layout = .nhwc := by
  unfold requestedLayout at requested
  split at requested
  · cases requested
  · cases requested
  · exact requested

theorem channelsLastDims_of_layout {input : Tensor} {image : ImageDims}
    (layout : input.layout = .nhwc) (found : ImageDims.ofTensor input = .ok image)
    (routine : String) :
    channelsLastDims input routine = .ok image ∧ image.layout = .nhwc := by
  obtain ⟨last, _⟩ := ImageDims.ofTensor_channelsLast layout found
  exact ⟨channelsLastDims_eq_ok.2 ⟨found, last⟩, ImageDims.layout_of_last last⟩

theorem groups_of_plain {settings : ConvParams} {input weights : Tensor} {rest : List Tensor}
    (classified : (Params.conv2d settings).classify (input :: weights :: rest) = .ok .conv2d) :
    settings.groups = 1 := by
  obtain ⟨image, _, _, _, kind⟩ := ConvParams.classify_eq_ok.1 classified
  split at kind
  · assumption
  · split at kind <;> cases kind

section Lanes

variable {lanes : Nat} (layout : ∀ input others, inputs = input :: others → input.layout = .nhwc)
  (singles : ∀ tensor ∈ output :: inputs, tensor.elementType = .f32)

include layout singles

theorem RowConvolution.body_unrefused {α : Type} {conv : RowConvolution α}
    {settings : ConvParams} (call : PreparedCall hook (.conv2d settings) inputs output derived)
    (packs : ∀ values dims, (conv.pack values dims).Unrefused)
    (rows : ∀ values image packed bias size batch outRow outColumn,
      (conv.row settings values image packed bias size batch outRow outColumn).Unrefused) :
    (conv.body settings ⟨.conv2d settings, inputs, [output], derived⟩).Unrefused := by
  obtain ⟨input, weights, rest, extents, rfl, rfl, describes⟩ := call.conv
  obtain ⟨read, last⟩ := channelsLastDims_of_layout (layout _ _ rfl) describes.image conv.routine
  have outDims := describes.outDims
  rw [last] at outDims
  unfold body
  refine .bind_ok rfl (.bind_ok rfl ?_)
  refine (unrefused_biasFor (Tensor.bias_of_singles (fun tensor member =>
    singles tensor (List.mem_cons_of_mem _ member)) 2)).bind fun bias _ => ?_
  refine .bind_ok (lift_eq_ok.2 read) ?_
  refine (unrefused_derivedOr fun _ => (Tensor.unrefused_singles (singles weights
    (by simp))).bind fun _ _ => packs _ _).bind fun packed _ => ?_
  refine .bind_ok rfl (.bind_ok (lift_eq_ok.2 outDims) ?_)
  refine (Tensor.unrefused_singles (singles input (by simp))).bind fun values _ => ?_
  refine (Call.unrefused_singleOutput (singles output (by simp))).bind fun old _ => ?_
  exact (unrefused_tabulateRows _ fun _ _ _ _ => rows _ _ _ _ _ _ _ _).map _

theorem laneConvBody_unrefused (call : AdmittedCall hook .conv2d params inputs output derived)
    (family : params.family = "conv2d") :
    (laneConvBody lanes ⟨params, inputs, [output], derived⟩).Unrefused := by
  cases params with
  | conv2d settings =>
      have plain : settings.groups = 1 := by
        obtain ⟨_, _, _, _, rfl, _⟩ := call.conv
        exact groups_of_plain call.classified
      rw [laneConvBody_conv2d]
      exact failsOnly_check (fun grouped => absurd plain grouped) fun _ =>
        RowConvolution.body_unrefused layout singles call.toPreparedCall
          LaneConvWeights.unrefused_pack fun _ _ _ _ _ _ _ _ =>
            unrefused_laneConvRow _ _ _ _ _ _ _ _ _
  | _ => simp [Params.family] at family

theorem laneDepthwiseBody_unrefused (call : PreparedCall hook params inputs output derived)
    (family : params.family = "conv2d") :
    (laneDepthwiseBody lanes ⟨params, inputs, [output], derived⟩).Unrefused := by
  cases params with
  | conv2d settings =>
      rw [laneDepthwiseBody_conv2d]
      exact RowConvolution.body_unrefused layout singles call
        LaneDepthwiseWeights.unrefused_pack fun _ _ _ _ _ _ _ _ =>
          unrefused_laneDepthwiseRow _ _ _ _ _ _ _ _ _
  | _ => simp [Params.family] at family

theorem lanePoolBody_unrefused (call : PreparedCall hook params inputs output derived)
    (family : params.family = "pool2d") :
    (lanePoolBody lanes ⟨params, inputs, [output], derived⟩).Unrefused := by
  cases params with
  | pool2d settings =>
      obtain ⟨input, others, image, outImage, rfl, images⟩ := call.poolImages
      obtain ⟨read, last⟩ :=
        channelsLastDims_of_layout (layout _ _ rfl) images.read lanePoolRoutine
      have written := images.written
      rw [last] at written
      unfold lanePoolBody
      refine .bind_ok rfl (.bind_ok (lift_eq_ok.2 read) (.bind_ok rfl
        (.bind_ok (lift_eq_ok.2 written) ?_)))
      refine (Tensor.unrefused_singles (singles input (by simp))).bind fun values _ => ?_
      refine (Call.unrefused_singleOutput (singles output (by simp))).bind fun old _ => ?_
      exact (unrefused_tabulateRows _ fun _ _ _ _ => unrefused_lanePoolRow _ _ _ _ _ _ _).map _
  | _ => simp [Params.family] at family

end Lanes

end Images

section Elementwise

variable (call : PreparedCall hook params inputs output derived)
  (singles : ∀ tensor ∈ output :: inputs, tensor.elementType = .f32)

include call singles

theorem binaryBody_unrefused (family : params.family = "eltwise") :
    (binaryBody ⟨params, inputs, [output], derived⟩).Unrefused := by
  cases params with
  | binary operation activation =>
      obtain ⟨first, second, rest, rfl, _, _⟩ := call.operands
      unfold binaryBody
      refine .bind_ok rfl (.bind_ok rfl ?_)
      refine (Call.unrefused_singleOutput (singles output (by simp))).bind fun old _ => ?_
      refine (Tensor.unrefused_singles (singles first (by simp))).bind fun left _ => ?_
      refine (Tensor.unrefused_singles (singles second (by simp))).bind fun right _ => ?_
      exact (unrefused_combineInto _ _ _ _ _ _ _ _).map _
  | _ => simp [Params.family] at family

theorem laneBinaryBody_unrefused {lanes : Nat} (family : params.family = "eltwise") :
    (laneBinaryBody lanes ⟨params, inputs, [output], derived⟩).Unrefused := by
  cases params with
  | binary operation activation =>
      obtain ⟨first, second, rest, rfl, _, _⟩ := call.operands
      unfold laneBinaryBody
      refine .bind_ok rfl (.bind_ok rfl (.bind_ok rfl ?_))
      refine (Tensor.unrefused_singles (singles first (by simp))).bind fun left _ => ?_
      refine (Tensor.unrefused_singles (singles second (by simp))).bind fun right _ => ?_
      refine (Call.unrefused_singleOutput (singles output (by simp))).bind fun old _ =>
        FailsOnly.map _ ?_
      split
      · exact unrefused_combineLanes _ _ _ _ _ _
      · exact unrefused_combineInto _ _ _ _ _ _ _ _
  | _ => simp [Params.family] at family

theorem activationBody_unrefused (family : params.family = "activation") :
    (activationBody ⟨params, inputs, [output], derived⟩).Unrefused := by
  obtain ⟨input, others, rfl, _⟩ := call.head
  cases params with
  | activation kind =>
      unfold activationBody
      refine .bind_ok rfl ?_
      refine (Tensor.unrefused_singles (singles input (by simp))).bind fun values _ => ?_
      exact (Call.unrefused_singleOutput (singles output (by simp))).bind fun _ _ =>
        failsOnly_pure _
  | _ => simp [Params.family] at family

theorem laneActivationBody_unrefused {lanes : Nat} (family : params.family = "activation") :
    (laneActivationBody lanes ⟨params, inputs, [output], derived⟩).Unrefused := by
  obtain ⟨input, others, rfl, _⟩ := call.head
  cases params with
  | activation kind =>
      unfold laneActivationBody
      refine .bind_ok rfl ?_
      refine (Tensor.unrefused_singles (singles input (by simp))).bind fun values _ => ?_
      refine (Call.unrefused_singleOutput (singles output (by simp))).bind fun _ _ => ?_
      refine (unrefused_tabulate fun index _ => ?_).map _
      split
      · exact (unrefused_readAt _ _).map _
      · exact unrefused_readAt _ _
  | _ => simp [Params.family] at family

theorem reduceBody_unrefused (family : params.family = "reduce") :
    (reduceBody ⟨params, inputs, [output], derived⟩).Unrefused := by
  obtain ⟨input, others, rfl, _⟩ := call.head
  cases params with
  | reduce settings =>
      unfold reduceBody
      refine .bind_ok rfl ?_
      refine (Call.unrefused_singleOutput (singles output (by simp))).bind fun _ _ => ?_
      refine (Tensor.unrefused_singles (singles input (by simp))).bind fun values _ => ?_
      exact (unrefused_reduceInto _ _ _ _).map _
  | _ => simp [Params.family] at family

theorem padBody_unrefused (family : params.family = "pad") :
    (padBody ⟨params, inputs, [output], derived⟩).Unrefused := by
  obtain ⟨input, others, rfl, _⟩ := call.head
  cases params with
  | pad pads value =>
      unfold padBody
      refine .bind_ok rfl (.bind_ok rfl ?_)
      refine (Tensor.unrefused_singles (singles input (by simp))).bind fun values _ => ?_
      refine (Call.unrefused_singleOutput (singles output (by simp))).bind fun _ _ => ?_
      exact (unrefused_padInto _ _ _ _ _ _).map _
  | _ => simp [Params.family] at family

theorem softmaxBody_unrefused (family : params.family = "softmax") :
    (softmaxBody ⟨params, inputs, [output], derived⟩).Unrefused := by
  obtain ⟨input, others, rfl, _, _, _, inferred⟩ := call.head
  cases params with
  | softmax axis =>
      have inside := Nat.not_le.2 (Params.axis_of_softmax inferred).1
      unfold softmaxBody
      refine .bind_ok rfl (failsOnly_check (fun outside => absurd outside inside) fun _ => ?_)
      refine (Call.unrefused_singleOutput (singles output (by simp))).bind fun _ _ => ?_
      refine (Tensor.unrefused_singles (singles input (by simp))).bind fun values _ => ?_
      exact (unrefused_softmaxInto _ _ _ _).map _
  | _ => simp [Params.family] at family

end Elementwise

section FullyConnected

theorem fullyConnectedBody_unrefused {accumulate : Accumulate} (never : accumulate.NeverRefuses)
    {routine : String} (call : PreparedCall hook params inputs output derived)
    (singles : ∀ tensor ∈ output :: inputs, tensor.elementType = .f32)
    (family : params.family = "fully_connected") :
    (fullyConnectedBody routine accumulate ⟨params, inputs, [output], derived⟩).Unrefused := by
  cases params with
  | fullyConnected activation =>
      obtain ⟨input, weights, rest, rows, inner, columns, rfl, inputDims, _⟩ := call.layer
      unfold fullyConnectedBody
      refine .bind_ok rfl (.bind_ok rfl ?_)
      refine (unrefused_biasFor (Tensor.bias_of_singles (fun tensor member =>
        singles tensor (List.mem_cons_of_mem _ member)) 2)).bind fun bias _ => ?_
      refine (unrefused_derivedOr fun _ => ?_).bind fun transposed _ => ?_
      · unfold TransposedWeights.ofTensor
        split
        · exact (Tensor.unrefused_singles (singles weights (by simp))).bind fun _ _ =>
            (unrefused_transposeMatrix _ _ _).bind fun _ _ => failsOnly_pure _
        · exact unrefused_abort
      · rw [inputDims]
        dsimp only
        refine (Tensor.unrefused_singles (singles input (by simp))).bind fun values _ => ?_
        refine (Call.unrefused_singleOutput (singles output (by simp))).bind fun _ _ => ?_
        exact (unrefused_fullyConnectedInto never _ _ _ _ _ _).map _
  | _ => simp [Params.family] at family

end FullyConnected

section BatchNorm

theorem PreparedCall.folded {epsilon : Single} {input : Tensor} {statistics : List Tensor}
    (call : PreparedCall foldBatchNorm (.batchNorm epsilon) (input :: statistics) output derived)
    {channels : Nat} (dims : ∀ statistic ∈ statistics, statistic.dims = [channels]) :
    ∃ folded, derived = some (.foldedNorm folded) ∧ folded.scale.size = channels ∧
      folded.shift.size = channels := by
  obtain ⟨earlier, hooked, _, seen⟩ := call.seen
  have sizes : ∀ {place : Nat} {tensor : Tensor} {values : Array Single},
      earlier[place + 1]? = some tensor → tensor.singlesFor batchNormRoutine = .ok values →
        values.size = channels := by
    intro place tensor values found read
    obtain ⟨operand, present, signature, sized⟩ := seen (place + 1) tensor found
    have own : operand.dims = [channels] := dims operand (List.mem_of_getElem? present)
    rw [sized.singles (Tensor.singlesFor_eq_ok.1 read)]
    change volume tensor.dims = channels
    rw [Tensor.dims_of_signature signature, own]
    exact Nat.mul_one channels
  unfold foldBatchNorm foldInputs at hooked
  simp only [bind_eq_ok, lift_eq_ok, pure_eq_ok, Call.input_eq_ok] at hooked
  obtain ⟨_, ⟨_, found₁, gamma, read₁, _, found₂, beta, read₂, _, found₃, mean, read₃, _, found₄,
    variance, read₄, rfl⟩, rfl⟩ := hooked
  have gammaSize := sizes found₁ read₁
  have betaSize := sizes found₂ read₂
  have meanSize := sizes found₃ read₃
  have varianceSize := sizes found₄ read₄
  refine ⟨_, rfl, ?_, ?_⟩ <;>
    simp [FoldedNorm.fold, gammaSize, betaSize, meanSize, varianceSize]

theorem batchNormBody_unrefused (call : PreparedCall foldBatchNorm params inputs output derived)
    (singles : ∀ tensor ∈ output :: inputs, tensor.elementType = .f32)
    (family : params.family = "batch_norm") :
    (batchNormBody ⟨params, inputs, [output], derived⟩).Unrefused := by
  obtain ⟨input, others, rfl, _, _, _, inferred⟩ := call.head
  cases params with
  | batchNorm epsilon =>
      obtain ⟨axis, located, dims, _⟩ := batchNormOutputShape_eq_ok.1 (lift_eq_ok.1 inferred)
      obtain ⟨folded, rfl, scales, shifts⟩ := call.folded dims
      unfold batchNormBody
      refine .bind_ok rfl (.bind_ok rfl (.bind_ok (lift_eq_ok.2 located) ?_))
      refine failsOnly_check (fun other => ?_) fun _ => ?_
      · exact absurd other (by simp [scales, shifts])
      refine (Tensor.unrefused_singles (singles input (by simp))).bind fun values _ => ?_
      refine (Call.unrefused_singleOutput (singles output (by simp))).bind fun _ _ => ?_
      refine (unrefused_tabulate fun index _ => ?_).map _
      split
      · exact unrefused_readAt _ _
      · exact (unrefused_nonzero _).bind fun _ _ => (unrefused_nonzero _).bind fun _ _ =>
          (unrefused_readAt _ _).bind fun _ _ => (unrefused_readAt _ _).bind fun _ _ =>
            failsOnly_pure _
  | _ => simp [Params.family] at family

end BatchNorm

section Moves

theorem Tensor.Valid.unrecorded {tensor : Tensor} (valid : tensor.Valid)
    (single : tensor.elementType = .f32) : tensor.quantization = none := by
  obtain ⟨_, _, _, fits⟩ := Tensor.valid_iff.1 valid
  unfold RecordFits at fits
  rw [single] at fits
  cases recorded : tensor.quantization with
  | none => rfl
  | some record =>
      rw [recorded] at fits
      exact fits.elim

theorem sameElementType_of_singles {input : Tensor} {routine : String}
    (single : input.elementType = .f32) (single' : output.elementType = .f32) :
    sameElementType input output routine = .ok () :=
  if_pos (single.trans single'.symm)

variable (call : AdmittedCall hook op params inputs output derived)
  (singles : ∀ tensor ∈ output :: inputs, tensor.elementType = .f32)

include call singles

theorem unrecorded_of_singles {input : Tensor} (member : input ∈ inputs) :
    Quantization.sameOption input.quantization output.quantization = true := by
  have member' := List.mem_cons_of_mem output member
  rw [(call.valid input member').unrecorded (singles input member'),
    (call.valid output (by simp)).unrecorded (singles output (by simp))]
  rfl

theorem reshapeBody_unrefused [Host] (family : params.family = "reshape") :
    (reshapeBody ⟨params, inputs, [output], derived⟩).Unrefused := by
  obtain ⟨input, others, rfl, _, _, _, inferred⟩ := call.head
  cases params with
  | reshape target =>
      have counts : output.count = input.count :=
        Shape.count_of_reshape? (Params.reshape?_of_reshape others inferred)
      unfold reshapeBody
      refine .bind_ok rfl (.bind_ok rfl (.bind_ok (lift_eq_ok.2 (sameElementType_of_singles
        (singles input (by simp)) (singles output (by simp)))) ?_))
      refine failsOnly_check (fun other => absurd counts other) fun _ => ?_
      rw [if_pos (unrecorded_of_singles call singles (by simp))]
      exact failsOnly_pure _
  | _ => simp [Params.family] at family

theorem transposeBody_unrefused [Host] (family : params.family = "transpose") :
    (transposeBody ⟨params, inputs, [output], derived⟩).Unrefused := by
  obtain ⟨input, others, rfl, _⟩ := call.head
  cases params with
  | transpose permutation =>
      obtain ⟨values, held⟩ := Tensor.exists_singles (singles input (by simp))
      obtain ⟨old, written⟩ := Tensor.exists_singles (singles output (by simp))
      unfold transposeBody
      refine .bind_ok rfl (.bind_ok rfl (.bind_ok (lift_eq_ok.2 (sameElementType_of_singles
        (singles input (by simp)) (singles output (by simp)))) ?_))
      refine (unrefused_transposeSources _ _).bind fun sources _ => ?_
      rw [if_pos (unrecorded_of_singles call singles (by simp)), held, written]
      exact FailsOnly.bind ((unrefused_gatherInto _ _ _).map _) fun _ _ => failsOnly_pure _
  | _ => simp [Params.family] at family

end Moves

end TensorRuntime
