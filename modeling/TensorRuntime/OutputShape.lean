import TensorRuntime.Image
import TensorRuntime.Params
import TensorRuntime.Window

/-! The shape of an operator's output, from its settings and its inputs. -/

namespace TensorRuntime

/-- The channel axis that normalisation works on: the layout's, else axis 1. -/
def batchNormAxis (input : Tensor) : Except Error Nat :=
  let rank := input.shape.rank
  let axis := input.layout.channelAxis?.getD 1
  if rank < 2 ∨ rank ≤ axis then .error (.shapeMismatch "batch norm input rank" [2] [rank])
  else .ok axis

/-- Checks weights `[O, I/groups, kh, kw]` and a bias against an image and counts the windows. -/
def convOutputShape (params : ConvParams) (input weights : Tensor) (bias : Option Tensor) :
    Except Error Shape := do
  let image ← ImageDims.ofTensor input
  match weights.dims with
  | [outChannels, perGroup, kernelHeight, kernelWidth] =>
      if params.groups = 0 ∨ image.channels % params.groups ≠ 0 ∨ outChannels % params.groups ≠ 0
      then
        throw (.shapeMismatch ("conv groups " ++ params.groups.repr ++ " over " ++
          image.channels.repr ++ " input channels") [image.channels] [params.groups, outChannels])
      if perGroup ≠ image.channels / params.groups then
        throw (.shapeMismatch "conv weight input channels per group"
          [image.channels / params.groups] [perGroup])
      if let some bias := bias then
        if bias.dims ≠ [outChannels] then
          throw (.shapeMismatch "conv bias" [outChannels] bias.dims)
      let padding := params.padding
      match windowCount? image.height kernelHeight params.stride.1 params.dilation.1 padding.top
          padding.bottom,
        windowCount? image.width kernelWidth params.stride.2 params.dilation.2 padding.left
          padding.right with
      | some height, some width => return image.shapeWith outChannels height width
      | _, _ =>
          throw (.shapeMismatch "conv window" [kernelHeight, kernelWidth]
            [image.height, image.width])
  | dims => throw (.shapeMismatch "conv weights [O, I/groups, kh, kw]" [0, 0, 0, 0] dims)

def poolOutputShape (params : PoolParams) (input : Tensor) : Except Error Shape := do
  let image ← ImageDims.ofTensor input
  let padding := params.padding
  match windowCount? image.height params.kernel.1 params.stride.1 1 padding.top padding.bottom,
    windowCount? image.width params.kernel.2 params.stride.2 1 padding.left padding.right with
  | some height, some width => return image.shapeWith image.channels height width
  | _, _ =>
      throw (.shapeMismatch ("pool window " ++ pairText params.kernel ++ " over '" ++ input.name ++
        "'") [params.kernel.1, params.kernel.2] [image.height, image.width])

def batchNormOutputShape (input : Tensor) (statistics : List Tensor) : Except Error Shape := do
  let axis ← batchNormAxis input
  let channels := input.dims.getD axis 0
  statistics.forM fun statistic =>
    if statistic.dims ≠ [channels] then
      throw (.shapeMismatch ("batch norm parameter '" ++ statistic.name ++ "'") [channels]
        statistic.dims)
    else pure ()
  return input.shape

def fullyConnectedOutputShape (input weights : Tensor) (bias : Option Tensor) :
    Except Error Shape :=
  match input.dims, weights.dims with
  | [rows, inner], [columns, inner'] =>
      if inner ≠ inner' then
        .error (.shapeMismatch "fully connected [N, K] x [M, K]" input.dims weights.dims)
      else
        match bias with
        | some bias =>
            if bias.dims ≠ [columns] then
              .error (.shapeMismatch "fully connected bias" [columns] bias.dims)
            else .ok ⟨[rows, columns]⟩
        | none => .ok ⟨[rows, columns]⟩
  | _, _ => .error (.shapeMismatch "fully connected [N, K] x [M, K]" input.dims weights.dims)

namespace Params

def outputShapeOf (params : Params) (input : Tensor) (others : List Tensor) : Attempt Shape :=
  match params with
  | conv2d settings =>
      match others with
      | weights :: rest => convOutputShape settings input weights rest.head?
      | [] => Attempt.abort
  | pool2d settings => poolOutputShape settings input
  | binary .. =>
      match others with
      | other :: _ =>
          match input.shape.broadcast? other.shape with
          | some shape => pure shape
          | none => Attempt.refuse (.shapeMismatch "eltwise broadcast" input.dims other.dims)
      | [] => Attempt.abort
  | activation _ => pure input.shape
  | reduce settings => do
      let axes := settings.resolvedAxes input.shape.rank
      match ← input.shape.reduce? axes settings.keepDims with
      | some shape => return shape
      | none => Attempt.refuse (.shapeMismatch "reduce axes" input.dims axes)
  | batchNorm _ => batchNormOutputShape input others
  | softmax axis =>
      if input.shape.rank ≤ axis then
        Attempt.refuse (.shapeMismatch "softmax axis" [input.shape.rank] [axis])
      else pure input.shape
  | fullyConnected _ =>
      match others with
      | weights :: rest => fullyConnectedOutputShape input weights rest.head?
      | [] => Attempt.abort
  | reshape target =>
      match input.shape.reshape? target with
      | some shape => pure shape
      | none =>
          Attempt.refuse (.shapeMismatch "reshape target" input.dims (target.map Int.toNat))
  | transpose permutation => do
      match ← input.shape.permute? permutation with
      | some shape => return shape
      | none =>
          Attempt.refuse (.shapeMismatch "transpose permutation" input.dims permutation)
  | pad pads _ =>
      if pads.length ≠ input.shape.rank then
        Attempt.refuse (.shapeMismatch "pad list" [input.shape.rank] [pads.length])
      else
        pure ⟨(input.dims.zip pads).map fun entry => word (entry.1 + entry.2.1 + entry.2.2)⟩

def outputShape (params : Params) (inputs : List Tensor) : Attempt Shape :=
  let wrongNumber : Error :=
    .invalidGraph (params.family ++ " expects " ++ params.arity.1.repr ++ "..=" ++
      params.arity.2.repr ++ " inputs, got " ++ inputs.length.repr)
  match inputs with
  | [] => Attempt.refuse wrongNumber
  | input :: others =>
      if inputs.length < params.arity.1 ∨ params.arity.2 < inputs.length then
        Attempt.refuse wrongNumber
      else params.outputShapeOf input others

end Params

end TensorRuntime
