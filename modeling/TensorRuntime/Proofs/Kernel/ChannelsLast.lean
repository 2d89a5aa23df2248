import TensorRuntime.Proofs.Kernel.Agreement
import TensorRuntime.Proofs.Kernel.ChannelBodies

/-!
The scalar kernels for images compute the same in either order of axes. With its images moved to
channels last a run writes what the run on channels first wrote, moved in the same way, or
fails as that one did.
-/

namespace TensorRuntime

open Attempt

section Shapes

variable {input : Tensor} {image : ImageDims}

theorem shape_of_windows (images : input.ChannelsFirst image) (height width : Option Nat)
    (channels : Nat) (error : Error) :
    (match height, width with
      | some height, some width =>
          return image.withChannelsLast.shapeWith channels height width
      | _, _ => throw error : Except Error Shape) =
      Shape.withChannelsLast <$>
        (match height, width with
          | some height, some width => return image.shapeWith channels height width
          | _, _ => throw error) := by
  split
  · exact congrArg Except.ok (ImageDims.shapeWith_withChannelsLast images.first _ _ _)
  · rfl

theorem convOutputShape_withChannelsLast (read : ImageDims.ofTensor input = .ok image)
    (images : input.ChannelsFirst image) (settings : ConvParams) (weights : Tensor)
    (bias : Option Tensor) :
    convOutputShape settings input.withChannelsLast weights bias =
      Shape.withChannelsLast <$> convOutputShape settings input weights bias := by
  unfold convOutputShape
  rw [images.ofTensor_withChannelsLast, read]
  dsimp only [bind, Except.bind]
  split
  · refine if_moved _ rfl (if_moved _ rfl ?_)
    cases bias with
    | none => exact shape_of_windows images _ _ _ _
    | some start => exact if_moved _ rfl (shape_of_windows images _ _ _ _)
  · rfl

theorem poolOutputShape_withChannelsLast (read : ImageDims.ofTensor input = .ok image)
    (images : input.ChannelsFirst image) (settings : PoolParams) :
    poolOutputShape settings input.withChannelsLast =
      Shape.withChannelsLast <$> poolOutputShape settings input := by
  have name : input.withChannelsLast.name = input.name := by rw [images.withChannelsLast_eq]
  unfold poolOutputShape
  rw [images.ofTensor_withChannelsLast, read, name]
  exact shape_of_windows images _ _ _ _

theorem batchNormOutputShape_withChannelsLast (images : input.ChannelsFirst image)
    (axis : batchNormAxis input = .ok 1) (statistics : List Tensor) :
    batchNormOutputShape input.withChannelsLast statistics =
      Shape.withChannelsLast <$> batchNormOutputShape input statistics := by
  have channels : input.withChannelsLast.dims.getD 3 0 = input.dims.getD 1 0 :=
    images.batchNormExtents_withChannelsLast.1.trans images.batchNormExtents.1.symm
  unfold batchNormOutputShape
  rw [images.batchNormAxis_withChannelsLast, axis]
  dsimp only [bind, Except.bind]
  rw [channels]
  refine bind_alike _ fun _ _ => congrArg Except.ok (Tensor.shape_withChannelsLast _)

inductive ImageParams : OpKind → Params → Prop where
  | conv (settings : ConvParams) : ImageParams .conv2d (.conv2d settings)
  | depthwise (settings : ConvParams) : ImageParams .depthwiseConv2d (.conv2d settings)
  | grouped (settings : ConvParams) : ImageParams .groupedConv2d (.conv2d settings)
  | maxPool (settings : PoolParams) : ImageParams .maxPool2d (.pool2d settings)
  | avgPool (settings : PoolParams) : ImageParams .avgPool2d (.pool2d settings)
  | batchNorm (epsilon : Single) : ImageParams .batchNorm (.batchNorm epsilon)

theorem ImageCall.outputShapeOf_withChannelsLast {hook : Precompute} {op : OpKind} {params : Params}
    {output : Tensor} {others : List Tensor} {derived : Option Derived}
    (call : ImageCall hook params image input others output derived)
    (takes : ImageParams op params) :
    params.outputShapeOf input.withChannelsLast others =
      Shape.withChannelsLast <$> params.outputShapeOf input others := by
  have lifted {rule rule' : Except Error Shape} (moved : rule' = Shape.withChannelsLast <$> rule) :
      (liftM rule' : Attempt Shape) = Shape.withChannelsLast <$> (liftM rule : Attempt Shape) :=
    (congrArg _ moved).trans (lift_map _ _)
  cases takes with
  | conv settings | depthwise settings | grouped settings =>
      cases others with
      | nil => rfl
      | cons weights rest =>
          exact lifted (convOutputShape_withChannelsLast call.read call.images settings weights _)
  | maxPool settings | avgPool settings =>
      exact lifted (poolOutputShape_withChannelsLast call.read call.images settings)
  | batchNorm epsilon =>
      exact lifted (batchNormOutputShape_withChannelsLast call.images call.batchNormAxis others)

theorem ImageCall.outputShape_withChannelsLast {hook : Precompute} {op : OpKind} {params : Params}
    {output output' : Tensor} {others : List Tensor} {derived : Option Derived}
    (call : ImageCall hook params image input others output derived) (takes : ImageParams op params)
    (inferred : params.outputShape (input :: others) = .ok output.shape)
    (same : output'.shape = output.withChannelsLast.shape) :
    params.outputShape (input.withChannelsLast :: others) = .ok output'.shape := by
  obtain ⟨_, _, listed, enough, few, own⟩ := Params.outputShape_eq_ok.1 inferred
  cases listed
  refine Params.outputShape_eq_ok.2 ⟨_, _, rfl, enough, few, ?_⟩
  rw [call.outputShapeOf_withChannelsLast takes, own, same, Tensor.shape_withChannelsLast]
  rfl

end Shapes

section Kernels

/-- A run on images with channels last ends as the run on channels first does, and leaves what
that one leaves, moved. State is derived from the other inputs. -/
structure Kernel.FollowsChannels (kernel : Kernel) : Prop where
  hook : ∀ params input others, kernel.precompute params (input.withChannelsLast :: others) =
    kernel.precompute params (input :: others)
  run : ∀ params image input others output output' derived,
    ImageCall kernel.precompute params image input others output derived →
    output'.frame = output.withChannelsLast.frame →
    (∃ written, kernel.run ⟨params, input :: others, [output], derived⟩ = ⟨[written], .ok ()⟩ ∧
      kernel.run ⟨params, input.withChannelsLast :: others, [output'], derived⟩ =
        ⟨[written.withChannelsLast], .ok ()⟩) ∨
    ∃ fault, kernel.run ⟨params, input :: others, [output], derived⟩ =
        ⟨[output], .error fault⟩ ∧
      kernel.run ⟨params, input.withChannelsLast :: others, [output'], derived⟩ =
        ⟨[output'], .error fault⟩

theorem Kernel.followsChannels_ofBody {name : String} {layouts : List Layout} {entry : String}
    {hook : Precompute} {precompute? : Option Precompute} {body : Call → Attempt Tensor}
    (own : (ofBody name layouts entry precompute? body).precompute = hook)
    (blind : ∀ params input input' others,
      hook params (input' :: others) = hook params (input :: others))
    (moves : hook.Moves body) : (ofBody name layouts entry precompute? body).FollowsChannels := by
  refine ⟨fun params input others => own ▸ blind params _ _ others, ?_⟩
  intro params image input others output output' derived call same
  obtain ⟨buffer, fits, rfl⟩ := Tensor.refill_of_frame same
  rw [own] at call
  have agree := moves params image input others output buffer derived call fits
  cases done : body ⟨params, input :: others, [output], derived⟩ with
  | error fault =>
      rw [done] at agree
      exact .inr ⟨fault, run_ofBody_error done, run_ofBody_error agree⟩
  | ok written =>
      rw [done] at agree
      exact .inl ⟨written, run_ofBody_ok done, run_ofBody_ok agree⟩

variable {op : OpKind} {elementType : ElementType} {params : Params} {kernel : Kernel}

theorem Kernel.followsChannels_of_hookless {name : String} {layouts : List Layout} {entry : String}
    {body : Call → Attempt Tensor} (moves : ∀ hook : Precompute, hook.Moves body) :
    (ofBody name layouts entry none body).FollowsChannels :=
  followsChannels_ofBody rfl (fun _ _ _ _ => rfl) (moves _)

theorem convKernel_followsChannels : convKernel.FollowsChannels := by
  refine Kernel.followsChannels_ofBody rfl (fun params _ _ _ => ?_) convBody_moves
  cases params <;> rfl

theorem batchNormKernel_followsChannels : batchNormKernel.FollowsChannels := by
  refine Kernel.followsChannels_ofBody rfl (fun params _ _ _ => ?_) batchNormBody_moves
  cases params <;> rfl

theorem followsChannels_of_listed [Host]
    (listed : (op, elementType, kernel) ∈ Catalogue.kernelsOf .reference)
    (takes : ImageParams op params) : kernel.FollowsChannels := by
  cases takes with
  | conv =>
      obtain ⟨_, rfl⟩ | ⟨_, rfl⟩ : (elementType = .f32 ∧ kernel = convKernel) ∨
          (elementType = .i8 ∧ kernel = convBytesKernel) := by
        simpa [Catalogue.kernelsOf, Catalogue.scalarKernels, ElementType.all] using listed
      · exact convKernel_followsChannels
      · exact Kernel.followsChannels_of_hookless fun hook => storedConvBody_moves hook
  | depthwise | grouped =>
      obtain ⟨_, rfl⟩ : elementType = .f32 ∧ kernel = convKernel := by
        simpa [Catalogue.kernelsOf, Catalogue.scalarKernels, ElementType.all] using listed
      exact convKernel_followsChannels
  | maxPool =>
      obtain ⟨_, rfl⟩ | ⟨_, rfl⟩ | ⟨_, rfl⟩ : (elementType = .f32 ∧ kernel = maxPoolKernel) ∨
          (elementType = .i8 ∧ kernel = maxPoolBytesKernel) ∨
          (elementType = .u8 ∧ kernel = maxPoolUnsignedBytesKernel) := by
        simpa [Catalogue.kernelsOf, Catalogue.scalarKernels, ElementType.all] using listed
      · exact Kernel.followsChannels_of_hookless poolBody_moves
      · exact Kernel.followsChannels_of_hookless (storedPoolBody_moves · .i8)
      · exact Kernel.followsChannels_of_hookless (storedPoolBody_moves · .u8)
  | avgPool =>
      obtain ⟨_, rfl⟩ : elementType = .f32 ∧ kernel = avgPoolKernel := by
        simpa [Catalogue.kernelsOf, Catalogue.scalarKernels, ElementType.all] using listed
      exact Kernel.followsChannels_of_hookless poolBody_moves
  | batchNorm =>
      obtain ⟨_, rfl⟩ : elementType = .f32 ∧ kernel = batchNormKernel := by
        simpa [Catalogue.kernelsOf, Catalogue.scalarKernels, ElementType.all] using listed
      exact batchNormKernel_followsChannels

/-- The scalar kernels for images do not depend on the order of axes. Valid images with channels
first, moved to channels last, are valid and hold the same element at every pixel, and the output
inferred for them is moved in the same way. A run on them succeeds exactly when the run on the
images does, with the same state derived or not, and it leaves the tensor that one leaves, moved;
else both fail alike. -/
theorem scalarKernels_follow_channels [Host] {image : ImageDims} {input output output' : Tensor}
    {others : List Tensor} {derived : Option Derived}
    (listed : (op, elementType, kernel) ∈ Catalogue.kernelsOf .reference)
    (takes : ImageParams op params) (read : ImageDims.ofTensor input = .ok image)
    (first : image.channelsLast = false) (inputValid : input.Valid) (outputValid : output.Valid)
    (inferred : params.outputShape (input :: others) = .ok output.shape)
    (same : output'.frame = output.withChannelsLast.frame)
    (primed : kernel.Primed params (input :: others) derived) :
    input.withChannelsLast.Valid ∧
      (∀ pixel, image.Holds pixel →
        input.withChannelsLast.elementAt? (image.withChannelsLast.index pixel) =
          input.elementAt? (image.index pixel)) ∧
      output'.Valid ∧ params.outputShape (input.withChannelsLast :: others) = .ok output'.shape ∧
      kernel.precompute params (input.withChannelsLast :: others) =
        kernel.precompute params (input :: others) ∧
      ((∃ written,
          kernel.run ⟨params, input :: others, [output], derived⟩ = ⟨[written], .ok ()⟩ ∧
          kernel.run ⟨params, input.withChannelsLast :: others, [output'], derived⟩ =
            ⟨[written.withChannelsLast], .ok ()⟩) ∨
        ∃ fault,
          kernel.run ⟨params, input :: others, [output], derived⟩ = ⟨[output], .error fault⟩ ∧
          kernel.run ⟨params, input.withChannelsLast :: others, [output'], derived⟩ =
            ⟨[output'], .error fault⟩) := by
  obtain ⟨_, _, own, _, _, inferredOf⟩ := Params.outputShape_eq_ok.1 inferred
  cases own
  have call : ImageCall kernel.precompute params image input others output derived :=
    ⟨read, first, inputValid.sized, outputValid.sized, inferredOf, primed⟩
  have follows := followsChannels_of_listed listed takes
  have shape : output'.shape = output.withChannelsLast.shape := by
    obtain ⟨_, _, rfl⟩ := Tensor.refill_of_frame same
    rfl
  exact ⟨inputValid.withChannelsLast,
    fun _ => call.images.elementAt?_withChannelsLast inputValid.sized,
    outputValid.withChannelsLast.of_frame same,
    call.outputShape_withChannelsLast takes inferred shape, follows.hook _ _ _,
    follows.run _ _ _ _ _ _ _ call same⟩

end Kernels

def groupedParams : ConvParams := ⟨(2, 1), ⟨1, 0, 0, 1⟩, (1, 2), 2, .relu⟩

def groupedTensor (name : String) (dims : List Nat) (layout : Layout) : Tensor :=
  ⟨name, ⟨dims⟩, layout, none, .external,
    .f32 ⟨(List.range (volume dims)).map fun place => ⟨0x3F800000 + place.toUInt32⟩⟩⟩

def groupedOthers : List Tensor :=
  [groupedTensor "w" [4, 2, 2, 2] .any, groupedTensor "b" [4] .any]

/-- The outputs of the two runs hold other values before them. -/
theorem groupedConv_follows_channels :
    (OpKind.groupedConv2d, ElementType.f32, convKernel) ∈ Catalogue.kernelsOf .reference ∧
      (groupedTensor "y" [1, 2, 3, 4] .nhwc).frame =
        (groupedTensor "y" [1, 4, 2, 3] .nchw).withChannelsLast.frame ∧
      ((∃ written,
          convKernel.run ⟨.conv2d groupedParams, groupedTensor "x" [1, 4, 3, 4] .nchw ::
            groupedOthers, [groupedTensor "y" [1, 4, 2, 3] .nchw], none⟩ = ⟨[written], .ok ()⟩ ∧
          convKernel.run ⟨.conv2d groupedParams,
            (groupedTensor "x" [1, 4, 3, 4] .nchw).withChannelsLast :: groupedOthers,
            [groupedTensor "y" [1, 2, 3, 4] .nhwc], none⟩ = ⟨[written.withChannelsLast], .ok ()⟩) ∨
        ∃ fault,
          convKernel.run ⟨.conv2d groupedParams, groupedTensor "x" [1, 4, 3, 4] .nchw ::
            groupedOthers, [groupedTensor "y" [1, 4, 2, 3] .nchw], none⟩ =
              ⟨[groupedTensor "y" [1, 4, 2, 3] .nchw], .error fault⟩ ∧
          convKernel.run ⟨.conv2d groupedParams,
            (groupedTensor "x" [1, 4, 3, 4] .nchw).withChannelsLast :: groupedOthers,
            [groupedTensor "y" [1, 2, 3, 4] .nhwc], none⟩ =
              ⟨[groupedTensor "y" [1, 2, 3, 4] .nhwc], .error fault⟩) := by
  have listed : (OpKind.groupedConv2d, ElementType.f32, convKernel) ∈
      Catalogue.kernelsOf .reference := by
    simp [Catalogue.kernelsOf, Catalogue.scalarKernels]
  have images : (groupedTensor "y" [1, 4, 2, 3] .nchw).ChannelsFirst ⟨1, 4, 2, 3, false⟩ :=
    ⟨rfl, rfl⟩
  have same : (groupedTensor "y" [1, 2, 3, 4] .nhwc).frame =
      (groupedTensor "y" [1, 4, 2, 3] .nchw).withChannelsLast.frame :=
    images.frame_withChannelsLast.symm
  have read : ImageDims.ofTensor (groupedTensor "x" [1, 4, 3, 4] .nchw) =
      .ok ⟨1, 4, 3, 4, false⟩ := rfl
  have inputValid : (groupedTensor "x" [1, 4, 3, 4] .nchw).Valid := rfl
  have outputValid : (groupedTensor "y" [1, 4, 2, 3] .nchw).Valid := rfl
  have inferred : (Params.conv2d groupedParams).outputShape
      (groupedTensor "x" [1, 4, 3, 4] .nchw :: groupedOthers) = .ok ⟨[1, 4, 2, 3]⟩ := rfl
  exact ⟨listed, same, (scalarKernels_follow_channels listed (.grouped groupedParams) read rfl
    inputValid outputValid inferred same (.inl rfl)).2.2.2.2.2⟩

end TensorRuntime
