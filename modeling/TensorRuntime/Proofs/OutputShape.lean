import TensorRuntime.OutputShape
import TensorRuntime.Proofs.Signature
import TensorRuntime.Proofs.Windows
import TensorRuntime.Resolution

/-!
What shape inference and classification look at. Whether they succeed, and with what,
depends on the shapes and layouts of the inputs; names only occur in refusals.
-/

namespace TensorRuntime

open Attempt

namespace Tensor

def outline (tensor : Tensor) : Tensor :=
  ⟨"", tensor.shape, tensor.layout, none, .external, .f32 #[]⟩

theorem outlines_of_signatures {tensors tensors' : List Tensor}
    (same : tensors'.map signature = tensors.map signature) :
    tensors'.map outline = tensors.map outline := by
  let sketch (signature : Signature) : Tensor :=
    ⟨"", signature.shape, signature.layout, none, .external, .f32 #[]⟩
  have through := congrArg (fun signatures => signatures.map sketch) same
  rw [List.map_map, List.map_map] at through
  exact through

end Tensor

namespace ImageDims

theorem toOption_ofTensor_dims (tensor : Tensor) :
    (ofTensor tensor).toOption = (ofDims tensor.dims tensor.layout).toOption := by
  unfold ofTensor
  split
  · rename_i refused
    rw [refused]
    rfl
  · rfl

theorem toOption_ofTensor (tensor : Tensor) :
    (ofTensor tensor).toOption = (ofTensor tensor.outline).toOption :=
  (toOption_ofTensor_dims tensor).trans (toOption_ofTensor_dims tensor.outline).symm

theorem ofTensor_eq_ok {tensor : Tensor} {image : ImageDims} :
    ofTensor tensor = .ok image ↔ ofDims tensor.dims tensor.layout = .ok image := by
  rw [← toOption_eq_some, toOption_ofTensor_dims, toOption_eq_some]

theorem ofDims_cases {dims : List Nat} {layout : Layout} {image : ImageDims}
    (found : ofDims dims layout = .ok image) :
    (layout = .nhwc ∧ image.channelsLast = true ∧
        dims = [image.batch, image.height, image.width, image.channels]) ∨
      ((layout = .nchw ∨ layout = .any) ∧ image.channelsLast = false ∧
        dims = [image.batch, image.channels, image.height, image.width]) := by
  unfold ofDims at found
  split at found
  · split at found
    · cases found
      exact .inl ⟨rfl, rfl, rfl⟩
    · cases found
      exact .inr ⟨.inl rfl, rfl, rfl⟩
    · cases found
      exact .inr ⟨.inr rfl, rfl, rfl⟩
    · cases found
  · cases found

end ImageDims

theorem windowShape_eq_ok {rows columns : Option Nat} {shapeOf : Nat → Nat → Shape} {error : Error}
    {shape : Shape}
    (inferred : (match rows, columns with
      | some height, some width => (pure (shapeOf height width) : Except Error Shape)
      | _, _ => throw error) = .ok shape) :
    ∃ height width, rows = some height ∧ columns = some width ∧
      shape = shapeOf height width := by
  cases rows with
  | none => cases inferred
  | some height =>
      cases columns with
      | none => cases inferred
      | some width => exact ⟨height, width, rfl, rfl, (pure_eq_ok.1 inferred).symm⟩

theorem convOutputShape_eq_ok {settings : ConvParams} {input weights : Tensor}
    {bias : Option Tensor} {shape : Shape}
    (inferred : convOutputShape settings input weights bias = .ok shape) :
    ∃ image outPerGroup perGroup kernelHeight kernelWidth height width,
      ImageDims.ofTensor input = .ok image ∧
      weights.dims =
        [settings.groups * outPerGroup, perGroup, kernelHeight, kernelWidth] ∧
      settings.groups ≠ 0 ∧ image.channels = settings.groups * perGroup ∧
      (∀ start, bias = some start → start.dims = [settings.groups * outPerGroup]) ∧
      windowCount? image.height kernelHeight settings.stride.1 settings.dilation.1
        settings.padding.top settings.padding.bottom = some height ∧
      windowCount? image.width kernelWidth settings.stride.2 settings.dilation.2
        settings.padding.left settings.padding.right = some width ∧
      shape = image.shapeWith (settings.groups * outPerGroup) height width := by
  unfold convOutputShape at inferred
  rw [bind_eq_ok] at inferred
  obtain ⟨image, found, inferred⟩ := inferred
  split at inferred
  · rename_i outChannels perGroup kernelHeight kernelWidth dims
    dsimp only at inferred
    rw [check_eq_ok] at inferred
    obtain ⟨even, inferred⟩ := inferred
    rw [check_eq_ok] at inferred
    obtain ⟨group, inferred⟩ := inferred
    obtain ⟨biasFits, height, width, windows⟩ :
        (∀ start, bias = some start → start.dims = [outChannels]) ∧ ∃ height width,
          windowCount? image.height kernelHeight settings.stride.1 settings.dilation.1
              settings.padding.top settings.padding.bottom = some height ∧
            windowCount? image.width kernelWidth settings.stride.2 settings.dilation.2
              settings.padding.left settings.padding.right = some width ∧
            shape = image.shapeWith outChannels height width := by
      cases bias with
      | none => exact ⟨fun _ impossible => (by cases impossible), windowShape_eq_ok inferred⟩
      | some start =>
          dsimp only at inferred
          rw [check_eq_ok] at inferred
          refine ⟨?_, windowShape_eq_ok inferred.2⟩
          intro _ same
          cases same
          exact Classical.not_not.1 inferred.1
    have channels : image.channels = settings.groups * perGroup := by
      rw [Classical.not_not.1 group, Nat.mul_div_cancel' (Nat.dvd_of_mod_eq_zero (by omega))]
    obtain ⟨outPerGroup, rfl⟩ : settings.groups ∣ outChannels :=
      Nat.dvd_of_mod_eq_zero (by omega)
    exact ⟨image, outPerGroup, perGroup, kernelHeight, kernelWidth, height, width, found, dims,
      by omega, channels, biasFits, windows⟩
  · cases inferred

theorem poolOutputShape_eq_ok {settings : PoolParams} {input : Tensor} {shape : Shape}
    (inferred : poolOutputShape settings input = .ok shape) :
    ∃ image height width, ImageDims.ofTensor input = .ok image ∧
      windowCount? image.height settings.kernel.1 settings.stride.1 1 settings.padding.top
        settings.padding.bottom = some height ∧
      windowCount? image.width settings.kernel.2 settings.stride.2 1 settings.padding.left
        settings.padding.right = some width ∧
      shape = image.shapeWith image.channels height width := by
  obtain ⟨image, found, counted⟩ := bind_eq_ok.1 inferred
  obtain ⟨height, width, windows⟩ := windowShape_eq_ok counted
  exact ⟨image, height, width, found, windows⟩

theorem batchNormOutputShape_eq_ok {input : Tensor} {statistics : List Tensor} {shape : Shape} :
    batchNormOutputShape input statistics = .ok shape ↔
      ∃ axis, batchNormAxis input = .ok axis ∧
        (∀ statistic ∈ statistics, statistic.dims = [input.dims.getD axis 0]) ∧
        shape = input.shape := by
  unfold batchNormOutputShape
  simp only [bind_eq_ok, pure_eq_ok]
  constructor
  · rintro ⟨axis, located, _, checked, same⟩
    refine ⟨axis, located, fun statistic member => ?_, same.symm⟩
    exact Classical.not_not.1 ((stop_eq_ok fun impossible => by cases impossible).1
      (forM_eq_ok.1 checked statistic member)).1
  · rintro ⟨axis, located, extents, rfl⟩
    refine ⟨axis, located, (), forM_eq_ok.2 fun statistic member => ?_, rfl⟩
    rw [if_neg (not_not.2 (extents statistic member))]
    rfl

theorem fullyConnectedOutputShape_eq_ok {input weights : Tensor} {bias : Option Tensor}
    {shape : Shape} (inferred : fullyConnectedOutputShape input weights bias = .ok shape) :
    ∃ rows inner columns, input.dims = [rows, inner] ∧ weights.dims = [columns, inner] ∧
      shape.dims = [rows, columns] ∧ ∀ start, bias = some start → start.dims = [columns] := by
  unfold fullyConnectedOutputShape at inferred
  split at inferred
  · rename_i rows inner columns inner' inputDims weightDims
    split at inferred
    · cases inferred
    · rename_i sameInner
      have inners : inner = inner' := Classical.not_not.1 sameInner
      subst inners
      cases bias with
      | none =>
          cases inferred
          exact ⟨rows, inner, columns, inputDims, weightDims, rfl, fun _ none => by cases none⟩
      | some start =>
          dsimp only at inferred
          split at inferred
          · cases inferred
          · rename_i biasDims
            cases inferred
            refine ⟨rows, inner, columns, inputDims, weightDims, rfl, ?_⟩
            intro _ same
            cases same
            exact Classical.not_not.1 biasDims
  · cases inferred

theorem ConvParams.classify_eq_ok {settings : ConvParams} {input weights : Tensor} {op : OpKind} :
    settings.classify input weights = .ok op ↔
      ∃ image, ImageDims.ofTensor input = .ok image ∧
        (settings.groups ≠ 0 ∧ image.channels % settings.groups = 0) ∧
        (weights.dims.length = 4 ∧
          weights.dims[1]? = some (image.channels / settings.groups)) ∧
        (if settings.groups = 1 then .conv2d
          else if settings.groups = image.channels then .depthwiseConv2d
          else .groupedConv2d) = op := by
  unfold classify
  simp only [bind_eq_ok, check_eq_ok, pure_eq_ok, not_or, ne_eq, Classical.not_not]

/-- The extents of a padded tensor, each the exact sum. -/
def paddedDims (dims : List Nat) (pads : List (Nat × Nat)) : List Nat :=
  (dims.zip pads).map fun entry => entry.1 + entry.2.1 + entry.2.2

/-- The extents of a padded tensor and the number of its elements are words. -/
def PaddedFits (dims : List Nat) (pads : List (Nat × Nat)) : Prop :=
  (∀ extent ∈ paddedDims dims pads, extent < wordLimit) ∧
    volume (paddedDims dims pads) < wordLimit

namespace Params

/-- What a call pads to is counted in words. Calls that pad nothing have nothing to fit. -/
def PadsFit : Params → List Tensor → Prop
  | pad pads _, input :: _ => PaddedFits input.dims pads
  | _, _ => True

theorem outputShape_eq_ok {params : Params} {inputs : List Tensor} {shape : Shape} :
    params.outputShape inputs = .ok shape ↔
      ∃ input others, inputs = input :: others ∧
        params.arity.1 ≤ inputs.length ∧ inputs.length ≤ params.arity.2 ∧
        params.outputShapeOf input others = .ok shape := by
  unfold outputShape
  cases inputs with
  | nil =>
      constructor
      · intro impossible
        cases impossible
      · rintro ⟨_, _, impossible, _⟩
        cases impossible
  | cons input others =>
      have refused {error : Error} : (refuse error : Attempt Shape) ≠ .ok shape :=
        fun impossible => by cases impossible
      dsimp only
      rw [stop_eq_ok refused, not_or, Nat.not_lt, Nat.not_lt]
      constructor
      · rintro ⟨⟨enough, few⟩, inferred⟩
        exact ⟨input, others, rfl, enough, few, inferred⟩
      · rintro ⟨_, _, same, enough, few, inferred⟩
        cases same
        exact ⟨⟨enough, few⟩, inferred⟩

section Operands

variable {input : Tensor} {others : List Tensor} {shape : Shape}

theorem weights_of_conv2d {settings : ConvParams}
    (inferred : (conv2d settings).outputShapeOf input others = .ok shape) :
    ∃ weights rest, others = weights :: rest ∧
      convOutputShape settings input weights rest[0]? = .ok shape := by
  cases others with
  | nil => cases inferred
  | cons weights rest =>
      refine ⟨weights, rest, rfl, ?_⟩
      rw [← List.head?_eq_getElem?]
      exact lift_eq_ok.1 inferred

theorem weights_of_fullyConnected {activation : FusedActivation}
    (inferred : (fullyConnected activation).outputShapeOf input others = .ok shape) :
    ∃ weights rest, others = weights :: rest ∧
      fullyConnectedOutputShape input weights rest[0]? = .ok shape := by
  cases others with
  | nil => cases inferred
  | cons weights rest =>
      refine ⟨weights, rest, rfl, ?_⟩
      rw [← List.head?_eq_getElem?]
      exact lift_eq_ok.1 inferred

theorem broadcast?_of_binary {op : BinaryOp} {activation : FusedActivation}
    (inferred : (binary op activation).outputShapeOf input others = .ok shape) :
    ∃ other rest, others = other :: rest ∧
      input.shape.broadcast? other.shape = some shape := by
  cases others with
  | nil => cases inferred
  | cons other rest =>
      dsimp only [outputShapeOf] at inferred
      split at inferred
      · rename_i found
        rw [pure_eq_ok] at inferred
        exact ⟨other, rest, rfl, inferred ▸ found⟩
      · cases inferred

theorem outputShapeOf_pad {pads : List (Nat × Nat)} {value : Single}
    (fits : PaddedFits input.dims pads) :
    (pad pads value).outputShapeOf input others = .ok shape ↔
      pads.length = input.dims.length ∧ shape.dims = paddedDims input.dims pads := by
  have sums : (input.dims.zip pads).map (fun entry => word (entry.1 + entry.2.1 + entry.2.2)) =
      paddedDims input.dims pads :=
    List.map_congr_left fun entry member =>
      word_of_lt (fits.1 _ (List.mem_map.2 ⟨entry, member, rfl⟩))
  have refused {error : Error} : (refuse error : Attempt Shape) ≠ .ok shape :=
    fun impossible => by cases impossible
  dsimp only [outputShapeOf]
  rw [stop_eq_ok refused, ne_eq, Classical.not_not, sums, pure_eq_ok]
  constructor
  · rintro ⟨length, rfl⟩
    exact ⟨length, rfl⟩
  · rintro ⟨length, dims⟩
    exact ⟨length, congrArg Shape.mk dims.symm⟩

theorem axis_of_softmax {axis : Nat}
    (inferred : (softmax axis).outputShapeOf input others = .ok shape) :
    axis < input.dims.length ∧ shape = input.shape := by
  dsimp only [outputShapeOf] at inferred
  split at inferred
  · cases inferred
  · rename_i inside
    exact ⟨Nat.lt_of_not_le inside, (pure_eq_ok.1 inferred).symm⟩

end Operands

theorem toOption_outputShapeOf (params : Params) (input : Tensor) (others : List Tensor) :
    (params.outputShapeOf input others).toOption =
      (params.outputShapeOf input.outline (others.map Tensor.outline)).toOption := by
  cases params with
  | conv2d settings =>
      cases others with
      | nil => rfl
      | cons weights rest =>
          simp only [outputShapeOf, List.map_cons, toOption_lift, convOutputShape, toOption_bind]
          rw [ImageDims.toOption_ofTensor]
          cases rest <;> rfl
  | pool2d settings =>
      simp only [outputShapeOf, toOption_lift, poolOutputShape, toOption_bind]
      rw [ImageDims.toOption_ofTensor]
      refine Option.bind_congr fun image _ => ?_
      split <;> rfl
  | fullyConnected =>
      cases others with
      | nil => rfl
      | cons weights rest => cases rest <;> rfl
  | binary => cases others <;> rfl
  | batchNorm =>
      simp only [outputShapeOf, toOption_lift]
      apply Option.ext
      intro shape
      simp only [toOption_eq_some, batchNormOutputShape_eq_ok, List.forall_mem_map]
      rfl
  | _ => rfl

theorem toOption_outputShape (params : Params) (inputs : List Tensor) :
    (params.outputShape inputs).toOption =
      (params.outputShape (inputs.map Tensor.outline)).toOption := by
  cases inputs with
  | nil => rfl
  | cons input others =>
      unfold outputShape
      simp only [List.map_cons, List.length_cons, List.length_map]
      split
      · rfl
      · exact params.toOption_outputShapeOf input others

theorem toOption_classify (params : Params) (inputs : List Tensor) :
    (params.classify inputs).toOption =
      (params.classify (inputs.map Tensor.outline)).toOption := by
  cases params with
  | conv2d settings =>
      cases inputs with
      | nil => rfl
      | cons input others =>
          cases others with
          | nil => rfl
          | cons weights rest =>
              simp only [classify, List.map_cons, ConvParams.classify, toOption_bind]
              rw [ImageDims.toOption_ofTensor]
              rfl
  | _ => rfl

variable {params : Params} {inputs inputs' : List Tensor}

theorem outputShape_of_outlines (same : inputs'.map Tensor.outline = inputs.map Tensor.outline)
    {shape : Shape} (inferred : params.outputShape inputs = .ok shape) :
    params.outputShape inputs' = .ok shape := by
  rw [← toOption_eq_some, toOption_outputShape, same, ← toOption_outputShape, toOption_eq_some]
  exact inferred

theorem PadsFit.of_outlines (fits : params.PadsFit inputs)
    (same : inputs'.map Tensor.outline = inputs.map Tensor.outline) : params.PadsFit inputs' := by
  cases params with
  | pad pads value =>
      cases inputs' with
      | nil => trivial
      | cons input' others' =>
          obtain ⟨input, others, rfl, sketch, _⟩ := List.map_eq_cons_iff.1 same.symm
          have dims : input.outline.dims = input'.outline.dims := congrArg Tensor.dims sketch
          change PaddedFits input'.outline.dims pads
          rw [← dims]
          exact fits
  | _ => trivial

theorem classify_of_outlines (same : inputs'.map Tensor.outline = inputs.map Tensor.outline)
    {op : OpKind} (classified : params.classify inputs = .ok op) :
    params.classify inputs' = .ok op := by
  rw [← toOption_eq_some, toOption_classify, same, ← toOption_classify, toOption_eq_some]
  exact classified

end Params

end TensorRuntime
