import TensorRuntime.Kernel.Arguments
import TensorRuntime.OutputShape

/-! Batch normalisation with fixed statistics, and softmax. -/

namespace TensorRuntime

def FoldedNorm.fold (gamma beta mean variance : Array Single) (epsilon : Single) : FoldedNorm :=
  let scale := (gamma.zip variance).map fun pair => pair.1 / (pair.2 + epsilon).sqrt
  ⟨scale, ((beta.zip mean).zip scale).map fun triple => triple.1.1 - triple.1.2 * triple.2⟩

def batchNormRoutine : String := "ref_batch_norm_f32"

def foldInputs (params : Params) (inputs : List Tensor) : Except Error FoldedNorm :=
  match params with
  | .batchNorm epsilon => do
      let call : Call := ⟨params, inputs, [], none⟩
      let gamma ← (← call.input 1 batchNormRoutine).singlesFor batchNormRoutine
      let beta ← (← call.input 2 batchNormRoutine).singlesFor batchNormRoutine
      let mean ← (← call.input 3 batchNormRoutine).singlesFor batchNormRoutine
      let variance ← (← call.input 4 batchNormRoutine).singlesFor batchNormRoutine
      return .fold gamma beta mean variance epsilon
  | _ => throw (params.mismatch batchNormRoutine)

def foldBatchNorm : Precompute := fun params inputs => do
  return some (.foldedNorm (← foldInputs params inputs))

def batchNormBody (call : Call) : Attempt Tensor := do
  let input ← call.input 0 batchNormRoutine
  let folded ← derivedOr (call.derived.bind Derived.foldedNorm?)
    (foldInputs call.params call.inputs)
  let axis ← batchNormAxis input
  let channels := input.dims.getD axis 0
  let inner := volume (input.dims.drop (axis + 1))
  if folded.scale.size ≠ channels ∨ folded.shift.size ≠ channels then
    Attempt.refuse (.kernelFailure batchNormRoutine
      (folded.scale.size.repr ++ " folded channels for " ++ channels.repr ++ " input channels"))
  let values ← input.singlesFor batchNormRoutine
  let (output, old) ← call.singleOutput batchNormRoutine
  output.withSingles <$> tabulate old.size fun index =>
    match values[index]? with
    | none => readAt old index
    | some value => do
        nonzero inner
        nonzero channels
        let channel := index / inner % channels
        return value * (← readAt folded.scale channel) + (← readAt folded.shift channel)

def batchNormKernel : Kernel :=
  .ofBody "ref_batch_norm_f32" [.any] batchNormRoutine (some foldBatchNorm) batchNormBody

def softmaxLine (length inner outerIndex innerIndex : Nat) : List Nat :=
  (List.range length).map fun step => (outerIndex * length + step) * inner + innerIndex

def softmaxOfLine (line : List Single) : List Single :=
  let greatest := line.foldl Single.maximum Single.negativeInfinity
  let exponentials := line.map fun value => Single.exp (value - greatest)
  let inverse := 1 / exponentials.foldl (· + ·) 0
  exponentials.map (· * inverse)

def softmaxInto (values : Array Single) (dims : List Nat) (axis : Nat)
    (old : Array Single) : Attempt (Array Single) :=
  match dims[axis]? with
  | none => Attempt.abort
  | some length =>
      let inner := volume (dims.drop (axis + 1))
      let outer := volume (dims.take axis)
      let lines := (List.range outer).flatMap fun outerIndex =>
        (List.range inner).map fun innerIndex => softmaxLine length inner outerIndex innerIndex
      lines.foldlM (fun written places => do
        let line ← places.mapM (readAt values)
        (places.zip (softmaxOfLine line)).foldlM
          (fun written entry => writeAt written entry.1 entry.2) written) old

def softmaxRoutine : String := "ref_softmax_f32"

def softmaxBody (call : Call) : Attempt Tensor :=
  match call.params with
  | .softmax axis => do
      let input ← call.input 0 softmaxRoutine
      if input.dims.length ≤ axis then
        Attempt.refuse (.kernelFailure softmaxRoutine ("axis " ++ axis.repr ++ " out of range"))
      let (output, old) ← call.singleOutput softmaxRoutine
      let values ← input.singlesFor softmaxRoutine
      output.withSingles <$> softmaxInto values input.dims axis old
  | params => Attempt.refuse (params.mismatch softmaxRoutine)

def softmaxKernel : Kernel := .ofBody "ref_softmax_f32" [.any] softmaxRoutine none softmaxBody

end TensorRuntime
