import TensorRuntime.Backend
import TensorRuntime.Kernel.Convolution
import TensorRuntime.Kernel.Elementwise
import TensorRuntime.Kernel.FullyConnected
import TensorRuntime.Kernel.Pooling

/-! Kernels over fixed-width groups of lanes. Images have their channels last, and the channel axis
is the lane axis: a kernel works on the whole row of channels of one output pixel. -/

namespace TensorRuntime

/-- Runs are cut into groups of `lanes` elements and a remainder. Full groups are paired with full
groups and the remainders with each other, each pairing ending with the shorter run; this gives the
positions in the other runs that a position of the first run is paired with. -/
def lanePartners? (lanes size : Nat) (others : List Nat) (position : Nat) : Option (List Nat) :=
  if position < size / lanes * lanes then
    if others.all fun other => position / lanes < other / lanes then
      some (others.map fun _ => position)
    else none
  else
    let place := position - size / lanes * lanes
    if others.all fun other => place < other % lanes then
      some (others.map fun other => other / lanes * lanes + place)
    else none

/-- The same pairing inside blocks of 64 groups, which are handed to different workers. -/
def blockPartners? (lanes size : Nat) (others : List Nat) (position : Nat) : Option (List Nat) :=
  let block := 64 * lanes
  let start := position / block * block
  let inBlock (extent : Nat) : Nat := min block (extent - start)
  if others.all fun other => start < other then
    (lanePartners? lanes (inBlock size) (others.map inBlock) (position - start)).map fun places =>
      places.map (start + ·)
  else none

def laneBinaryRoutine : String := "vec_binary_f32"

def combineLanes (lanes : Nat) (op : BinaryOp) (activation : FusedActivation)
    (first second old : Array Single) : Attempt (Array Single) :=
  tabulate old.size fun index =>
    match blockPartners? lanes old.size [first.size, second.size] index with
    | some [left, right] => do
        return combine op activation (← readAt first left) (← readAt second right)
    | _ => readAt old index

def laneBinaryBody (lanes : Nat) (call : Call) : Attempt Tensor :=
  match call.params with
  | .binary op activation => do
      let first ← call.input 0 laneBinaryRoutine
      let second ← call.input 1 laneBinaryRoutine
      let outDims := (← call.output laneBinaryRoutine).dims
      let firstValues ← first.singlesFor laneBinaryRoutine
      let secondValues ← second.singlesFor laneBinaryRoutine
      let (output, old) ← call.singleOutput laneBinaryRoutine
      output.withSingles <$>
        if first.dims = outDims ∧ second.dims = outDims then
          combineLanes lanes op activation firstValues secondValues old
        else
          combineInto op activation firstValues first.dims secondValues second.dims old outDims
  | params => Attempt.refuse (params.mismatch laneBinaryRoutine)

def laneActivationRoutine : String := "vec_activation_f32"

def laneActivationBody (lanes : Nat) (call : Call) : Attempt Tensor :=
  match call.params with
  | .activation kind => do
      let values ← (← call.input 0 laneActivationRoutine).singlesFor laneActivationRoutine
      let (output, old) ← call.singleOutput laneActivationRoutine
      output.withSingles <$> tabulate old.size fun index =>
        match blockPartners? lanes old.size [values.size] index with
        | some [place] => kind.apply <$> readAt values place
        | _ => readAt old index
  | params => Attempt.refuse (params.mismatch laneActivationRoutine)

def channelsLastDims (tensor : Tensor) (routine : String) : Except Error ImageDims := do
  let image ← ImageDims.ofTensor tensor
  if image.channelsLast then return image
  else throw (.unsupportedLayout tensor.layout (routine ++ " runs on nhwc only"))

abbrev Row := Array Single

def updateRow (lanes : Nat) (row : Row) (others : List (Array Single))
    (combine : Single → List Single → Single) : Attempt Row :=
  tabulate row.size fun index => do
    let value ← readAt row index
    match lanePartners? lanes row.size (others.map Array.size) index with
    | some places =>
        return combine value (← (others.zip places).mapM fun entry => readAt entry.1 entry.2)
    | none => return value

/-- Computes an output row by row, `width` channels at a time. The last row of a buffer that is not
a multiple of the width is shorter. -/
def tabulateRows (width : Nat) (image : ImageDims) (old : Array Single)
    (rowAt : Nat → Nat → Nat → Nat → Attempt Row) : Attempt (Array Single) := do
  nonzero width
  let rows ← (List.range ((old.size + width - 1) / width)).mapM fun pixel => do
    nonzero image.width
    nonzero image.height
    rowAt (min width (old.size - pixel * width)) (pixel / (image.width * image.height))
      (pixel / image.width % image.height) (pixel % image.width)
  return rows.foldl (· ++ ·) #[]

def startRow (bias : Option (Array Single)) (size : Nat) : Attempt Row :=
  match bias with
  | some bias => if bias.size = size then pure bias else Attempt.abort
  | none => pure (Array.replicate size 0)

namespace LaneConvWeights

def pack (weights : Array Single) (dims : List Nat) : Attempt LaneConvWeights :=
  match dims with
  | outChannels :: inChannels :: kernelHeight :: kernelWidth :: _ => do
      let count := outChannels * inChannels * kernelHeight * kernelWidth
      let values ← repack weights 0 count fun index =>
        let outChannel := index % outChannels
        let channel := index / outChannels % inChannels
        let column := index / outChannels / inChannels % kernelWidth
        let row := index / outChannels / inChannels / kernelWidth
        ((outChannel * inChannels + channel) * kernelHeight + row) * kernelWidth + column
      return ⟨kernelHeight, kernelWidth, inChannels, outChannels, values⟩
  | _ => Attempt.abort

def run (weights : LaneConvWeights) (kernelRow kernelColumn channel : Nat) :
    Attempt (Array Single) :=
  List.toArray <$> readRun weights.values
    (((kernelRow * weights.kernelWidth + kernelColumn) * weights.inChannels + channel) *
      weights.outChannels)
    weights.outChannels

end LaneConvWeights

def laneConvRoutine : String := "vec_conv2d_nhwc_f32"

def packLaneConvWeights : Precompute := fun params inputs =>
  match params with
  | .conv2d _ => do
      let weights ← Call.input ⟨params, inputs, [], none⟩ 1 laneConvRoutine
      let packed ← LaneConvWeights.pack (← weights.singlesFor laneConvRoutine) weights.dims
      return some (.laneConvWeights packed)
  | _ => Attempt.refuse (params.mismatch laneConvRoutine)

def laneConvRow (lanes : Nat) (params : ConvParams) (values : Array Single) (image : ImageDims)
    (weights : LaneConvWeights) (bias : Option (Array Single))
    (size batch outRow outColumn : Nat) : Attempt Row := do
  let start ← startRow bias size
  let taps := convTaps params weights.kernelHeight weights.kernelWidth image outRow outColumn
  let sums ← taps.foldlM (fun sums tap => do
    let inputs ← readRun values (image.index ⟨batch, 0, tap.row, tap.column⟩) weights.inChannels
    inputs.zipIdx.foldlM (fun sums (value, channel) => do
      let run ← weights.run tap.kernelRow tap.kernelColumn channel
      updateRow lanes sums [run] fun sum others => sum + value * others.headD 0) sums) start
  return sums.map params.activation.apply

def laneConvBody (lanes : Nat) (call : Call) : Attempt Tensor :=
  match call.params with
  | .conv2d params => do
      if params.groups ≠ 1 then
        Attempt.refuse (.kernelFailure laneConvRoutine
          ("dense kernel called with " ++ params.groups.repr ++ " groups"))
      let input ← call.input 0 laneConvRoutine
      let weights ← call.input 1 laneConvRoutine
      let bias ← biasFor call.inputs[2]? laneConvRoutine
      let image ← channelsLastDims input laneConvRoutine
      let packed ← derivedOr (call.derived.bind Derived.laneConvWeights?) do
        LaneConvWeights.pack (← weights.singlesFor laneConvRoutine) weights.dims
      let outImage ← ImageDims.ofDims (← call.output laneConvRoutine).dims .nhwc
      let values ← input.singlesFor laneConvRoutine
      let (output, old) ← call.singleOutput laneConvRoutine
      output.withSingles <$> tabulateRows packed.outChannels outImage old
        (laneConvRow lanes params values image packed bias)
  | params => Attempt.refuse (params.mismatch laneConvRoutine)

namespace LaneDepthwiseWeights

def pack (weights : Array Single) (dims : List Nat) : Attempt LaneDepthwiseWeights :=
  match dims with
  | channels :: _ :: kernelHeight :: kernelWidth :: _ => do
      let count := channels * kernelHeight * kernelWidth
      let values ← repack weights 0 count fun index =>
        let channel := index % channels
        let column := index / channels % kernelWidth
        let row := index / channels / kernelWidth
        (channel * kernelHeight + row) * kernelWidth + column
      return ⟨kernelHeight, kernelWidth, channels, values⟩
  | _ => Attempt.abort

def run (weights : LaneDepthwiseWeights) (kernelRow kernelColumn : Nat) :
    Attempt (Array Single) :=
  List.toArray <$> readRun weights.values
    ((kernelRow * weights.kernelWidth + kernelColumn) * weights.channels) weights.channels

end LaneDepthwiseWeights

def laneDepthwiseRoutine : String := "vec_depthwise_nhwc_f32"

def packLaneDepthwiseWeights : Precompute := fun params inputs =>
  match params with
  | .conv2d _ => do
      let weights ← Call.input ⟨params, inputs, [], none⟩ 1 laneDepthwiseRoutine
      let packed ← LaneDepthwiseWeights.pack (← weights.singlesFor laneDepthwiseRoutine)
        weights.dims
      return some (.laneDepthwiseWeights packed)
  | _ => Attempt.refuse (params.mismatch laneDepthwiseRoutine)

/-- One tap of a depthwise row. With one output channel for each input channel the rows are
combined lane by lane, else each output channel looks up its input channel. -/
def laneDepthwiseStep (lanes multiplier : Nat) (inputs taps : Array Single) (sums : Row) :
    Attempt Row :=
  if multiplier = 1 then
    updateRow lanes sums [inputs, taps] fun sum others =>
      sum + others.headD 0 * (others.drop 1).headD 0
  else
    tabulate sums.size fun channel => do
      nonzero multiplier
      let value ← readAt inputs (channel / multiplier)
      let weight ← readAt taps channel
      return (← readAt sums channel) + value * weight

def laneDepthwiseRow (lanes : Nat) (params : ConvParams) (values : Array Single)
    (image : ImageDims) (weights : LaneDepthwiseWeights) (bias : Option (Array Single))
    (size batch outRow outColumn : Nat) : Attempt Row := do
  let start ← startRow bias size
  let multiplier := weights.channels / max image.channels 1
  let taps := convTaps params weights.kernelHeight weights.kernelWidth image outRow outColumn
  let sums ← taps.foldlM (fun sums tap => do
    let inputs ← readRun values (image.index ⟨batch, 0, tap.row, tap.column⟩) image.channels
    let run ← weights.run tap.kernelRow tap.kernelColumn
    laneDepthwiseStep lanes multiplier inputs.toArray run sums) start
  return sums.map params.activation.apply

def laneDepthwiseBody (lanes : Nat) (call : Call) : Attempt Tensor :=
  match call.params with
  | .conv2d params => do
      let input ← call.input 0 laneDepthwiseRoutine
      let weights ← call.input 1 laneDepthwiseRoutine
      let bias ← biasFor call.inputs[2]? laneDepthwiseRoutine
      let image ← channelsLastDims input laneDepthwiseRoutine
      let packed ← derivedOr (call.derived.bind Derived.laneDepthwiseWeights?) do
        LaneDepthwiseWeights.pack (← weights.singlesFor laneDepthwiseRoutine) weights.dims
      let outImage ← ImageDims.ofDims (← call.output laneDepthwiseRoutine).dims .nhwc
      let values ← input.singlesFor laneDepthwiseRoutine
      let (output, old) ← call.singleOutput laneDepthwiseRoutine
      output.withSingles <$> tabulateRows packed.channels outImage old
        (laneDepthwiseRow lanes params values image packed bias)
  | params => Attempt.refuse (params.mismatch laneDepthwiseRoutine)

def lanePoolRoutine : String := "vec_pool_nhwc_f32"

/-- The channels of one pooled pixel. Averages are taken by multiplying with the reciprocal, and a
window with nothing to pool gives zeros. -/
def lanePoolRow (lanes : Nat) (params : PoolParams) (values : Array Single) (image : ImageDims)
    (size batch outRow outColumn : Nat) : Attempt Row := do
  let (rows, columns) := params.spans image outRow outColumn
  let inside := rows.length * columns.length
  let start := Array.replicate size (match params.mode with
    | .max => Single.negativeInfinity
    | .avg => 0)
  let pooled ← (windowPositions rows columns).foldlM (fun pooled position => do
    let inputs ← readRun values (image.index ⟨batch, 0, position.1, position.2⟩) image.channels
    updateRow lanes pooled [inputs.toArray] fun value others =>
      match params.mode with
      | .max => Single.maximum value (others.headD 0)
      | .avg => value + others.headD 0) start
  match params.mode with
  | .max => return if inside = 0 then pooled.map fun _ => 0 else pooled
  | .avg =>
      let count := if params.countPadding then word (rows.padded * columns.padded) else inside
      if inside = 0 ∨ count = 0 then return pooled.map fun _ => 0
      else
        let inverse := 1 / Single.ofNat count
        return pooled.map (· * inverse)

def lanePoolBody (lanes : Nat) (call : Call) : Attempt Tensor :=
  match call.params with
  | .pool2d params => do
      let input ← call.input 0 lanePoolRoutine
      let image ← channelsLastDims input lanePoolRoutine
      let outImage ← ImageDims.ofDims (← call.output lanePoolRoutine).dims .nhwc
      let values ← input.singlesFor lanePoolRoutine
      let (output, old) ← call.singleOutput lanePoolRoutine
      output.withSingles <$> tabulateRows image.channels outImage old
        (lanePoolRow lanes params values image)
  | params => Attempt.refuse (params.mismatch lanePoolRoutine)

def laneBinaryKernel (backend : Backend) : Kernel :=
  let name := backend.name ++ "_binary_f32"
  .ofBody name [.any] name none (laneBinaryBody backend.lanes)

def laneActivationKernel (backend : Backend) : Kernel :=
  let name := backend.name ++ "_activation_f32"
  .ofBody name [.any] name none (laneActivationBody backend.lanes)

def lanePoolKernel (backend : Backend) : Kernel :=
  let name := backend.name ++ "_pool_nhwc_f32"
  .ofBody name [.nhwc] name none (lanePoolBody backend.lanes)

def laneConvKernel (backend : Backend) : Kernel :=
  let name := backend.name ++ "_conv2d_nhwc_f32"
  .ofBody name [.nhwc] name (some packLaneConvWeights) (laneConvBody backend.lanes)

def laneDepthwiseKernel (backend : Backend) : Kernel :=
  let name := backend.name ++ "_depthwise_nhwc_f32"
  .ofBody name [.nhwc] name (some packLaneDepthwiseWeights) (laneDepthwiseBody backend.lanes)

def laneFullyConnectedKernel [Host] (backend : Backend) : Kernel :=
  let name := backend.name ++ "_fully_connected_f32"
  .ofBody name [.nc, .any] name (some transposeWeights)
    (fullyConnectedBody "vec_fully_connected_f32" accumulateProductChecked)

end TensorRuntime
