import TensorRuntime.Proofs.Kernel.Agreement
import TensorRuntime.Proofs.Kernel.Movement
import TensorRuntime.Proofs.Kernel.Prepared
import TensorRuntime.Proofs.Kernel.Refilling
import TensorRuntime.Proofs.Kernel.RowConvolution
import TensorRuntime.Proofs.Kernel.SoftmaxLines

/-!
Kernels overwrite their output. What a run of a prepared call writes, and whether it
succeeds, is the same for any two outputs with one frame, whatever they held before.
-/

namespace TensorRuntime

open Attempt

/-- The computation of a kernel with a hook does not depend on what the output held before. -/
def Precompute.Overwrites (hook : Precompute) (body : Call → Attempt Tensor) : Prop :=
  ∀ params inputs derived output buffer, PreparedCall hook params inputs output derived →
    Buffer.Fits buffer output.buffer →
    body ⟨params, inputs, [{ output with buffer }], derived⟩ =
      body ⟨params, inputs, [output], derived⟩

/-- A prepared run ends the same way on outputs with the same frame and, when it succeeds, leaves
the same tensor in their place. -/
def Kernel.Overwrites (kernel : Kernel) : Prop :=
  ∀ params inputs derived output output',
    PreparedCall kernel.precompute params inputs output derived → output'.frame = output.frame →
    (kernel.run ⟨params, inputs, [output'], derived⟩).outcome =
        (kernel.run ⟨params, inputs, [output], derived⟩).outcome ∧
      ((kernel.run ⟨params, inputs, [output], derived⟩).outcome = .ok () →
        (kernel.run ⟨params, inputs, [output'], derived⟩).outputs =
          (kernel.run ⟨params, inputs, [output], derived⟩).outputs)

theorem Kernel.overwrites_ofBody {name : String} {layouts : List Layout} {entry : String}
    {hook : Precompute} {precompute? : Option Precompute} {body : Call → Attempt Tensor}
    (own : (ofBody name layouts entry precompute? body).precompute = hook)
    (overwrites : hook.Overwrites body) :
    (ofBody name layouts entry precompute? body).Overwrites := by
  intro params inputs derived output output' call same
  obtain ⟨buffer, fits, rfl⟩ := Tensor.refill_of_frame same
  rw [own] at call
  have agree := overwrites params inputs derived output buffer call fits
  cases done : body ⟨params, inputs, [output], derived⟩ with
  | error fault =>
      rw [run_ofBody_error done, run_ofBody_error (agree.trans done)]
      exact ⟨rfl, fun impossible => by cases impossible⟩
  | ok written =>
      rw [run_ofBody_ok done, run_ofBody_ok (agree.trans done)]
      exact ⟨rfl, fun _ => rfl⟩

section Sized

/-! Kernels that ask their output for its size only. -/

variable (hook : Precompute)

theorem convBody_overwrites : hook.Overwrites convBody := by
  intro params inputs derived output buffer _ fits
  unfold convBody
  cases params with
  | conv2d settings =>
      refine bind_congr fun input => bind_congr fun weights => bind_congr fun bias =>
        bind_congr fun image => bind_congr fun packed => bind_congr fun values => ?_
      rw [Call.output_bind, Call.output_bind]
      refine bind_congr fun outImage => Call.singleOutput_bind fits ?_
      intro old old' held size
      dsimp only
      rw [size]
      rfl
  | _ => rfl

theorem poolBody_overwrites : hook.Overwrites poolBody := by
  intro params inputs derived output buffer _ fits
  unfold poolBody
  cases params with
  | pool2d settings =>
      refine bind_congr fun input => bind_congr fun image => ?_
      rw [Call.output_bind, Call.output_bind]
      refine bind_congr fun outImage => bind_congr fun values => Call.singleOutput_bind fits ?_
      intro old old' held size
      dsimp only
      rw [size]
      rfl
  | _ => rfl

theorem padBody_overwrites : hook.Overwrites padBody := by
  intro params inputs derived output buffer _ fits
  unfold padBody
  cases params with
  | pad pads value =>
      refine bind_congr fun input => ?_
      rw [Call.output_bind, Call.output_bind]
      refine bind_congr fun values => Call.singleOutput_bind fits ?_
      intro old old' held size
      dsimp only
      rw [size]
      rfl
  | _ => rfl

theorem reduceBody_overwrites : hook.Overwrites reduceBody := by
  intro params inputs derived output buffer _ fits
  unfold reduceBody
  cases params with
  | reduce settings =>
      refine bind_congr fun input => Call.singleOutput_bind fits ?_
      intro old old' held size
      dsimp only
      rw [size]
      rfl
  | _ => rfl

theorem tabulateRows_size {width : Nat} {image : ImageDims} {old old' : Array Single}
    {rowAt : Nat → Nat → Nat → Nat → Attempt Row} (size : old'.size = old.size) :
    tabulateRows width image old' rowAt = tabulateRows width image old rowAt := by
  unfold tabulateRows
  rw [size]

theorem RowConvolution.body_refill {α : Type} (conv : RowConvolution α) {settings : ConvParams}
    {params : Params} {inputs : List Tensor} {output : Tensor} {derived : Option Derived}
    {buffer : Buffer} (fits : Buffer.Fits buffer output.buffer) :
    conv.body settings ⟨params, inputs, [{ output with buffer }], derived⟩ =
      conv.body settings ⟨params, inputs, [output], derived⟩ := by
  unfold body
  refine bind_congr fun input => bind_congr fun weights => bind_congr fun bias =>
    bind_congr fun image => bind_congr fun packed => ?_
  rw [Call.output_bind, Call.output_bind]
  refine bind_congr fun outImage => bind_congr fun values => Call.singleOutput_bind fits ?_
  intro old old' held size
  dsimp only
  rw [tabulateRows_size size]
  rfl

theorem laneConvBody_overwrites (lanes : Nat) : hook.Overwrites (laneConvBody lanes) := by
  intro params inputs derived output buffer _ fits
  cases params with
  | conv2d settings =>
      rw [laneConvBody_conv2d, laneConvBody_conv2d, RowConvolution.body_refill _ fits]
  | _ => rfl

theorem laneDepthwiseBody_overwrites (lanes : Nat) :
    hook.Overwrites (laneDepthwiseBody lanes) := by
  intro params inputs derived output buffer _ fits
  cases params with
  | conv2d settings =>
      rw [laneDepthwiseBody_conv2d, laneDepthwiseBody_conv2d, RowConvolution.body_refill _ fits]
  | _ => rfl

theorem lanePoolBody_overwrites (lanes : Nat) : hook.Overwrites (lanePoolBody lanes) := by
  intro params inputs derived output buffer _ fits
  unfold lanePoolBody
  cases params with
  | pool2d settings =>
      refine bind_congr fun input => bind_congr fun image => ?_
      rw [Call.output_bind, Call.output_bind]
      refine bind_congr fun outImage => bind_congr fun values => Call.singleOutput_bind fits ?_
      intro old old' held size
      dsimp only
      rw [tabulateRows_size size]
      rfl
  | _ => rfl

theorem storedBinaryBody_overwrites (elementType : ElementType) :
    hook.Overwrites (storedBinaryBody elementType) := by
  intro params inputs derived output buffer _ fits
  unfold storedBinaryBody
  cases params with
  | binary op activation =>
      refine bind_congr fun first => bind_congr fun second => bind_congr fun firstAffine =>
        bind_congr fun secondAffine => ?_
      rw [Call.output_bind, Call.output_bind]
      refine bind_congr fun outAffine => bind_congr fun firstStored =>
        bind_congr fun secondStored => bind_congr fun firstStrides =>
        bind_congr fun secondStrides => ?_
      rw [Tensor.storedSlots_refill fits]
      refine bind_congr fun slots => bind_congr fun stored => ?_
      exact Tensor.withStored_refill fits stored
  | _ => rfl

theorem storedPoolBody_overwrites (elementType : ElementType) :
    hook.Overwrites (storedPoolBody elementType) := by
  intro params inputs derived output buffer _ fits
  unfold storedPoolBody
  cases params with
  | pool2d settings =>
      dsimp only
      split
      · exact (refuse_bind _ _).trans (refuse_bind _ _).symm
      · refine bind_congr fun input => bind_congr fun affine => bind_congr fun image => ?_
        rw [Call.output_bind, Call.output_bind]
        refine bind_congr fun outAffine => bind_congr fun outImage => bind_congr fun stored => ?_
        rw [Tensor.storedSlots_refill fits]
        refine bind_congr fun slots => bind_congr fun pooled => ?_
        exact Tensor.withStored_refill fits pooled
  | _ => rfl

theorem storedConvBody_overwrites [Host] : hook.Overwrites storedConvBody := by
  intro params inputs derived output buffer _ fits
  unfold storedConvBody
  cases params with
  | conv2d settings =>
      refine bind_congr fun input => bind_congr fun weights => bind_congr fun affine =>
        bind_congr fun record => bind_congr fun bias => bind_congr fun image => ?_
      dsimp only
      split
      · refine bind_congr fun stored => bind_congr fun storedWeights => ?_
        rw [Call.output_bind, Call.output_bind]
        refine bind_congr fun outAffine => bind_congr fun outImage => bind_congr fun _ => ?_
        rw [Tensor.storedSlots_refill fits]
        refine bind_congr fun slots => bind_congr fun convolved => ?_
        exact Tensor.withStored_refill fits convolved
      · rfl
  | _ => rfl

theorem acceleratorConvBody_overwrites (staged : StagedWeights) :
    hook.Overwrites (acceleratorConvBody staged) := by
  intro params inputs derived output buffer _ fits
  unfold acceleratorConvBody
  cases params with
  | conv2d settings =>
      refine bind_congr fun input => bind_congr fun affine => bind_congr fun image => ?_
      dsimp only
      split
      · rfl
      · refine bind_congr fun stored => ?_
        rw [Call.output_bind, Call.output_bind]
        refine bind_congr fun outAffine => bind_congr fun outImage => bind_congr fun stage => ?_
        refine Tensor.signedBytes_bind fits fun old old' size => ?_
        refine bind_congr fun _ => ?_
        rw [size]
        exact bind_congr fun convolved => Tensor.withStored_refill fits convolved
  | _ => rfl

theorem acceleratorFullyConnectedBody_overwrites (staged : StagedWeights) :
    hook.Overwrites (acceleratorFullyConnectedBody staged) := by
  intro params inputs derived output buffer _ fits
  unfold acceleratorFullyConnectedBody
  cases params with
  | fullyConnected activation =>
      refine bind_congr fun input => bind_congr fun affine => bind_congr fun stored => ?_
      rw [Call.output_bind, Call.output_bind]
      refine bind_congr fun outAffine => bind_congr fun stage => ?_
      refine Tensor.signedBytes_bind fits fun old old' size => ?_
      refine bind_congr fun _ => ?_
      rw [size]
      exact bind_congr fun products => Tensor.withStored_refill fits products
  | _ => rfl

theorem withStaged_overwrites {body : StagedWeights → Call → Attempt Tensor} (routine : String)
    (overwrites : ∀ staged, hook.Overwrites (body staged)) :
    hook.Overwrites (withStaged routine body) := by
  intro params inputs derived output buffer call fits
  unfold withStaged
  dsimp only
  split
  · rename_i staged _
    exact overwrites staged params inputs derived output buffer call fits
  · rfl

end Sized

section Filled

/-! Kernels whose loops keep old elements where their source ends. In a prepared call it does not
end before the output does. -/

variable (hook : Precompute)

theorem halfBinaryBody_overwrites [Host] : hook.Overwrites halfBinaryBody := by
  intro params inputs derived output buffer call fits
  have sized : output.Sized := call.sized output (by simp)
  unfold halfBinaryBody
  cases params with
  | binary op activation =>
      refine bind_congr fun first => bind_congr fun second => bind_congr fun _ =>
        bind_congr fun _ => ?_
      rw [Call.output_bind, Call.output_bind, Tensor.expect_refill fits]
      refine bind_congr fun _ => bind_congr fun firstValues => bind_congr fun secondValues =>
        bind_congr fun combined => ?_
      exact Tensor.writeSingles_refill fits sized combined
  | _ => rfl

theorem halfActivationBody_overwrites [Host] : hook.Overwrites halfActivationBody := by
  intro params inputs derived output buffer call fits
  have sized : output.Sized := call.sized output (by simp)
  unfold halfActivationBody
  cases params with
  | activation kind =>
      refine bind_congr fun input => bind_congr fun _ => ?_
      rw [Call.output_bind, Call.output_bind, Tensor.expect_refill fits]
      refine bind_congr fun _ => bind_congr fun values => ?_
      exact Tensor.writeSingles_refill fits sized (values.map kind.apply)
  | _ => rfl

theorem reshapeBody_overwrites [Host] : hook.Overwrites reshapeBody := by
  intro params inputs derived output buffer call fits
  have sized : output.Sized := call.sized output (by simp)
  have sameType : ({ output with buffer } : Tensor).elementType = output.elementType :=
    fits.elementType
  unfold reshapeBody
  cases params with
  | reshape target =>
      refine bind_congr fun input => ?_
      rw [Call.output_bind, Call.output_bind]
      simp only [sameElementType, sameType, Tensor.writeSingles_refill fits sized]
      rfl
  | _ => rfl

theorem transposeBody_overwrites [Host] : hook.Overwrites transposeBody := by
  intro params inputs derived output buffer call fits
  have sized : output.Sized := call.sized output (by simp)
  have sameType : ({ output with buffer } : Tensor).elementType = output.elementType :=
    fits.elementType
  obtain ⟨input, others, rfl, _, _, _, inferred⟩ := call.head
  unfold transposeBody
  cases params with
  | transpose permutation =>
      obtain ⟨order, dims⟩ := Params.order_of_transpose others inferred
      have count : output.count = volume input.dims := by
        change volume output.shape.dims = _
        rw [dims, volume_permuted order]
      refine bind_congr_ok fun tensor first => ?_
      cases first
      rw [Call.output_bind, Call.output_bind]
      simp only [sameElementType, sameType, Tensor.writeSingles_refill fits sized,
        transposeSources_eq order]
      refine bind_congr fun _ => ?_
      refine bind_congr_ok fun sources listed => ?_
      cases listed
      rw [Buffer.gather_refill fits]
      rw [List.length_map, List.length_range, ← count]
      exact sized
  | _ => rfl

theorem combineInto_size {op : BinaryOp} {activation : FusedActivation}
    {first second old old' : Array Single} {firstDims secondDims outDims : List Nat}
    (size : old'.size = old.size) (firstSize : firstDims = outDims → first.size = old.size)
    (secondSize : secondDims = outDims → second.size = old.size) :
    combineInto op activation first firstDims second secondDims old' outDims =
      combineInto op activation first firstDims second secondDims old outDims := by
  unfold combineInto
  split
  · rename_i aligned
    have left : first.size = old.size := firstSize aligned.1
    have right : second.size = old.size := secondSize aligned.2
    rw [combineAligned_eq left right,
      combineAligned_eq (left.trans size.symm) (right.trans size.symm), size]
  · unfold combineBroadcast
    rw [size]

theorem size_of_singles {tensor : Tensor} {values old : Array Single} {output : Tensor}
    (sized : tensor.Sized) (outputSized : output.Sized) (read : tensor.buffer = .f32 values)
    (held : output.buffer = .f32 old) (same : tensor.dims = output.dims) :
    values.size = old.size := by
  rw [sized.singles read, outputSized.singles held]
  exact congrArg volume same

theorem binaryBody_overwrites : hook.Overwrites binaryBody := by
  intro params inputs derived output buffer call fits
  have sized : output.Sized := call.sized output (by simp)
  unfold binaryBody
  cases params with
  | binary op activation =>
      refine bind_congr_ok fun first found => bind_congr_ok fun second found' => ?_
      rw [lift_eq_ok, Call.input_eq_ok] at found found'
      have firstSized : first.Sized := call.sized first (by simp [List.mem_of_getElem? found])
      have secondSized : second.Sized := call.sized second (by simp [List.mem_of_getElem? found'])
      refine Call.singleOutput_bind fits fun old old' held size => ?_
      refine bind_congr_ok fun firstValues firstRead =>
        bind_congr_ok fun secondValues secondRead => ?_
      rw [lift_eq_ok, Tensor.singlesFor_eq_ok] at firstRead secondRead
      rw [show ({ output with buffer := .f32 old' } : Tensor).dims = output.dims from rfl,
        combineInto_size size (size_of_singles firstSized sized firstRead held)
          (size_of_singles secondSized sized secondRead held)]
      rfl
  | _ => rfl

theorem laneBinaryBody_overwrites {lanes : Nat} (wide : 0 < lanes) :
    hook.Overwrites (laneBinaryBody lanes) := by
  intro params inputs derived output buffer call fits
  have sized : output.Sized := call.sized output (by simp)
  unfold laneBinaryBody
  cases params with
  | binary op activation =>
      refine bind_congr_ok fun first found => bind_congr_ok fun second found' => ?_
      rw [lift_eq_ok, Call.input_eq_ok] at found found'
      have firstSized : first.Sized := call.sized first (by simp [List.mem_of_getElem? found])
      have secondSized : second.Sized := call.sized second (by simp [List.mem_of_getElem? found'])
      rw [Call.output_bind, Call.output_bind]
      refine bind_congr_ok fun firstValues firstRead =>
        bind_congr_ok fun secondValues secondRead => ?_
      rw [lift_eq_ok, Tensor.singlesFor_eq_ok] at firstRead secondRead
      refine Call.singleOutput_bind fits fun old old' held size => ?_
      have left := size_of_singles firstSized sized firstRead held
      have right := size_of_singles secondSized sized secondRead held
      dsimp only
      rw [show ({ output with buffer } : Tensor).dims = output.dims from rfl]
      split
      · rename_i aligned
        rw [combineLanes_eq wide (left aligned.1) (right aligned.2),
          combineLanes_eq wide ((left aligned.1).trans size.symm)
            ((right aligned.2).trans size.symm),
          combineAligned_eq (left aligned.1) (right aligned.2),
          combineAligned_eq ((left aligned.1).trans size.symm)
            ((right aligned.2).trans size.symm), size]
        rfl
      · rw [combineInto_size size left right]
        rfl
  | _ => rfl

theorem activationBody_overwrites : hook.Overwrites activationBody := by
  intro params inputs derived output buffer call fits
  obtain ⟨input, others, rfl, inputSized, sized, _, inferred⟩ := call.head
  unfold activationBody
  cases params with
  | activation kind =>
      have same : input.shape = output.shape := pure_eq_ok.1 inferred
      refine bind_congr_ok fun tensor found => ?_
      cases found
      refine bind_congr_ok fun values read => ?_
      rw [lift_eq_ok, Tensor.singlesFor_eq_ok] at read
      refine Call.singleOutput_bind fits fun old old' held size => ?_
      have filled := size_of_singles inputSized sized read held (congrArg Shape.dims same)
      dsimp only
      rw [mapInto_eq filled, mapInto_eq (filled.trans size.symm), size]
      rfl
  | _ => rfl

theorem laneActivationBody_overwrites {lanes : Nat} (wide : 0 < lanes) :
    hook.Overwrites (laneActivationBody lanes) := by
  intro params inputs derived output buffer call fits
  obtain ⟨input, others, rfl, inputSized, sized, _, inferred⟩ := call.head
  unfold laneActivationBody
  cases params with
  | activation kind =>
      have same : input.shape = output.shape := pure_eq_ok.1 inferred
      refine bind_congr_ok fun tensor found => ?_
      cases found
      refine bind_congr_ok fun values read => ?_
      rw [lift_eq_ok, Tensor.singlesFor_eq_ok] at read
      refine Call.singleOutput_bind fits fun old old' held size => ?_
      have filled := size_of_singles inputSized sized read held (congrArg Shape.dims same)
      have mapped : mapInto kind.apply values old' = mapInto kind.apply values old := by
        rw [mapInto_eq filled, mapInto_eq (filled.trans size.symm), size]
      calc _ = output.withSingles <$> .ok (mapInto kind.apply values old') :=
            congrArg (output.withSingles <$> ·) (mapLanes_eq wide (filled.trans size.symm))
        _ = output.withSingles <$> .ok (mapInto kind.apply values old) := by rw [mapped]
        _ = _ := congrArg (output.withSingles <$> ·) (mapLanes_eq wide filled).symm
  | _ => rfl

theorem storedActivationBody_overwrites (elementType : ElementType) :
    hook.Overwrites (storedActivationBody elementType) := by
  intro params inputs derived output buffer call fits
  obtain ⟨input, others, rfl, inputSized, sized, _, inferred⟩ := call.head
  unfold storedActivationBody
  cases params with
  | activation kind =>
      have same : input.shape = output.shape := pure_eq_ok.1 inferred
      refine bind_congr_ok fun tensor found => ?_
      cases found
      refine bind_congr fun affine => ?_
      rw [Call.output_bind, Call.output_bind]
      refine bind_congr fun outAffine => bind_congr_ok fun stored read => ?_
      rw [Tensor.storedSlots_refill fits]
      refine bind_congr fun _ => ?_
      dsimp only
      rw [Tensor.withStored_refill fits]
      congr 1
      rcases fits.integers with ⟨absent, absent'⟩ | ⟨refill, old, held, held', size⟩
      · rw [absent, absent']
      · have valuesSize : stored.size = old.size := by
          rw [lift_eq_ok, Tensor.storedFor_eq_ok] at read
          rw [inputSized.stored read.2, sized.stored held', Tensor.count, same]
          rfl
        rw [held, held']
        apply Array.ext
        · simp [size]
        · intro index bound bound'
          have inside : index < stored.size := by
            simp only [Option.getD_some, Array.size_mapIdx] at bound'
            omega
          simp [inside]
  | _ => rfl

theorem startRows_size {bias : Option (Array Single)} {columns : Nat} {old old' : Array Single}
    (size : old'.size = old.size) (whole : columns ∣ old.size) :
    startRows bias columns old' = startRows bias columns old := by
  unfold startRows
  refine bind_congr fun _ => ?_
  rw [size, Nat.div_mul_cancel whole]
  apply tabulate_congr
  intro index bound
  rw [if_pos bound, if_pos bound]

theorem fullyConnectedBody_overwrites (routine : String) (accumulate : Accumulate) :
    Precompute.Overwrites transposeWeights (fullyConnectedBody routine accumulate) := by
  intro params inputs derived output buffer call fits
  have sized : output.Sized := call.sized output (by simp)
  unfold fullyConnectedBody
  cases params with
  | fullyConnected activation =>
      obtain ⟨input, weights, rest, rows, inner, columns, transposed, rfl, inputDims, _, outputDims,
        _, rfl, sameColumns, _⟩ := call.transposed
      refine bind_congr_ok fun tensor found => ?_
      cases found
      refine bind_congr fun weights => bind_congr fun bias => bind_congr_ok fun state present => ?_
      cases present
      dsimp only
      rw [inputDims]
      refine bind_congr fun values => Call.singleOutput_bind fits fun old old' held size => ?_
      have whole : transposed.columns ∣ old.size := by
        rw [sized.singles held, sameColumns]
        change columns ∣ volume output.dims
        simp [outputDims]
      dsimp only [fullyConnectedInto]
      rw [startRows_size size whole]
      rfl
  | _ => rfl

theorem batchNormBody_overwrites : Precompute.Overwrites foldBatchNorm batchNormBody := by
  intro params inputs derived output buffer call fits
  obtain ⟨input, others, rfl, inputSized, sized, _, inferred⟩ := call.head
  obtain ⟨_, hooked, _⟩ := call.seen
  obtain ⟨epsilon, rfl⟩ := foldBatchNorm_params hooked
  obtain ⟨_, _, _, same⟩ := batchNormOutputShape_eq_ok.1 (lift_eq_ok.1 inferred)
  unfold batchNormBody
  refine bind_congr_ok fun tensor found => ?_
  cases found
  refine bind_congr fun folded => bind_congr fun axis => ?_
  dsimp only
  split
  · rfl
  · refine bind_congr_ok fun values read => ?_
    rw [lift_eq_ok, Tensor.singlesFor_eq_ok] at read
    refine Call.singleOutput_bind fits fun old old' held size => ?_
    have filled := size_of_singles inputSized sized read held (congrArg Shape.dims same.symm)
    refine congrArg (output.withSingles <$> ·) ?_
    rw [size]
    apply tabulate_congr
    intro index bound
    rw [Array.getElem?_eq_getElem (show index < values.size by omega)]

theorem softmaxBody_overwrites : hook.Overwrites softmaxBody := by
  intro params inputs derived output buffer call fits
  obtain ⟨input, others, rfl, inputSized, sized, _, inferred⟩ := call.head
  unfold softmaxBody
  cases params with
  | softmax axis =>
      have same := (Params.axis_of_softmax inferred).2
      refine bind_congr_ok fun tensor found => ?_
      cases found
      dsimp only
      split
      · rfl
      · refine Call.singleOutput_bind fits fun old old' held size => ?_
        refine bind_congr fun values => ?_
        have whole : old.size = volume input.dims := by
          rw [sized.singles held]
          exact congrArg Shape.count same
        dsimp only
        rw [softmaxInto_size size whole]
        rfl
  | _ => rfl

end Filled

namespace Registry

open Kernel in
/-- No kernel of the default registry lets what its output held before show in what it writes. -/
theorem default_overwrites [Host] :
    ∀ entry ∈ Registry.default.entries, entry.kernel.Overwrites := by
  apply default_kernels
  constructor
  case conv => exact overwrites_ofBody rfl (convBody_overwrites _)
  case maxPool | avgPool => exact overwrites_ofBody rfl (poolBody_overwrites _)
  case batchNorm => exact overwrites_ofBody rfl batchNormBody_overwrites
  case softmax => exact overwrites_ofBody rfl (softmaxBody_overwrites _)
  case fullyConnected => exact overwrites_ofBody rfl (fullyConnectedBody_overwrites _ _)
  case pad => exact overwrites_ofBody rfl (padBody_overwrites _)
  case convBytes => exact overwrites_ofBody rfl (storedConvBody_overwrites _)
  case addBytes | addUnsignedBytes =>
      exact overwrites_ofBody rfl (storedBinaryBody_overwrites _ _)
  case reluBytes | reluUnsignedBytes =>
      exact overwrites_ofBody rfl (storedActivationBody_overwrites _ _)
  case maxPoolBytes | maxPoolUnsignedBytes =>
      exact overwrites_ofBody rfl (storedPoolBody_overwrites _ _)
  case binary => exact overwrites_ofBody rfl (binaryBody_overwrites _)
  case halfBinary => exact overwrites_ofBody rfl (halfBinaryBody_overwrites _)
  case activation => exact overwrites_ofBody rfl (activationBody_overwrites _)
  case halfActivation => exact overwrites_ofBody rfl (halfActivationBody_overwrites _)
  case reduce => exact overwrites_ofBody rfl (reduceBody_overwrites _)
  case reshape => exact overwrites_ofBody rfl (reshapeBody_overwrites _)
  case transpose => exact overwrites_ofBody rfl (transposeBody_overwrites _)
  case laneConv => exact fun _ => overwrites_ofBody rfl (laneConvBody_overwrites _ _)
  case laneDepthwise => exact fun _ => overwrites_ofBody rfl (laneDepthwiseBody_overwrites _ _)
  case laneFullyConnected =>
      exact fun _ => overwrites_ofBody rfl (fullyConnectedBody_overwrites _ _)
  case lanePool => exact fun _ => overwrites_ofBody rfl (lanePoolBody_overwrites _ _)
  case laneBinary =>
      exact fun backend => overwrites_ofBody rfl (laneBinaryBody_overwrites _ backend.lanes_pos)
  case laneActivation =>
      exact fun backend => overwrites_ofBody rfl (laneActivationBody_overwrites _ backend.lanes_pos)
  case acceleratorConv =>
      exact overwrites_ofBody rfl (withStaged_overwrites _ _ (acceleratorConvBody_overwrites _))
  case acceleratorFullyConnected =>
      exact overwrites_ofBody rfl
        (withStaged_overwrites _ _ (acceleratorFullyConnectedBody_overwrites _))

end Registry

end TensorRuntime
