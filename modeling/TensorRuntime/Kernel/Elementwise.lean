import TensorRuntime.Kernel.Arguments

/-! Binary operators with broadcasting, and activations, on singles and halves. Halves are widened,
computed on as singles and narrowed when they are stored. -/

namespace TensorRuntime

/-- Strides that read an operand at the positions of a larger output: stretched axes do not move.
An operand of higher rank than the output aborts. -/
def broadcastStrides (dims outDims : List Nat) : Attempt (List Nat) :=
  if outDims.length < dims.length then Attempt.abort
  else
    pure (List.replicate (outDims.length - dims.length) 0 ++
      dims.zipWith (fun extent stride => if extent = 1 then 0 else stride) (Shape.strides dims))

def combine (op : BinaryOp) (activation : FusedActivation) (first second : Single) : Single :=
  activation.apply (op.apply first second)

def combineAligned (op : BinaryOp) (activation : FusedActivation)
    (first second old : Array Single) : Array Single :=
  old.mapIdx fun index value =>
    match first[index]?, second[index]? with
    | some first, some second => combine op activation first second
    | _, _ => value

def combineBroadcast (op : BinaryOp) (activation : FusedActivation) (first : Array Single)
    (firstDims : List Nat) (second : Array Single) (secondDims : List Nat)
    (old : Array Single) (outDims : List Nat) : Attempt (Array Single) := do
  let firstStrides ← broadcastStrides firstDims outDims
  let secondStrides ← broadcastStrides secondDims outDims
  tabulate old.size fun index => do
    let first ← readAt first (← Shape.offsetOf outDims firstStrides index)
    let second ← readAt second (← Shape.offsetOf outDims secondStrides index)
    return combine op activation first second

def combineInto (op : BinaryOp) (activation : FusedActivation) (first : Array Single)
    (firstDims : List Nat) (second : Array Single) (secondDims : List Nat)
    (old : Array Single) (outDims : List Nat) : Attempt (Array Single) :=
  if firstDims = outDims ∧ secondDims = outDims then
    pure (combineAligned op activation first second old)
  else combineBroadcast op activation first firstDims second secondDims old outDims

def mapInto (function : Single → Single) (values old : Array Single) : Array Single :=
  old.mapIdx fun index value => (values[index]?.map function).getD value

def binaryRoutine : String := "ref_binary_f32"

def binaryBody (call : Call) : Attempt Tensor :=
  match call.params with
  | .binary op activation => do
      let first ← call.input 0 binaryRoutine
      let second ← call.input 1 binaryRoutine
      let (output, old) ← call.singleOutput binaryRoutine
      let firstValues ← first.singlesFor binaryRoutine
      let secondValues ← second.singlesFor binaryRoutine
      output.withSingles <$> combineInto op activation firstValues first.dims secondValues
        second.dims old output.dims
  | params => Attempt.refuse (params.mismatch binaryRoutine)

def binaryKernel : Kernel := .ofBody "ref_binary_f32" [.any] binaryRoutine none binaryBody

def halfBinaryRoutine : String := "ref_binary_f16"

def halfBinaryBody [Host] (call : Call) : Attempt Tensor :=
  match call.params with
  | .binary op activation => do
      let first ← call.input 0 halfBinaryRoutine
      let second ← call.input 1 halfBinaryRoutine
      first.expect .f16 halfBinaryRoutine
      second.expect .f16 halfBinaryRoutine
      let output ← call.output halfBinaryRoutine
      output.expect .f16 halfBinaryRoutine
      let wide := Array.replicate output.count 0
      output.writeSingles (← combineInto op activation (← first.toSingles) first.dims
        (← second.toSingles) second.dims wide output.dims)
  | params => Attempt.refuse (params.mismatch halfBinaryRoutine)

def halfBinaryKernel [Host] : Kernel :=
  .ofBody "ref_binary_f16" [.any] halfBinaryRoutine none halfBinaryBody

def activationRoutine : String := "ref_activation_f32"

def activationBody (call : Call) : Attempt Tensor :=
  match call.params with
  | .activation kind => do
      let values ← (← call.input 0 activationRoutine).singlesFor activationRoutine
      let (output, old) ← call.singleOutput activationRoutine
      return output.withSingles (mapInto kind.apply values old)
  | params => Attempt.refuse (params.mismatch activationRoutine)

def activationKernel : Kernel :=
  .ofBody "ref_activation_f32" [.any] activationRoutine none activationBody

def halfActivationRoutine : String := "ref_activation_f16"

def halfActivationBody [Host] (call : Call) : Attempt Tensor :=
  match call.params with
  | .activation kind => do
      let input ← call.input 0 halfActivationRoutine
      input.expect .f16 halfActivationRoutine
      let output ← call.output halfActivationRoutine
      output.expect .f16 halfActivationRoutine
      output.writeSingles ((← input.toSingles).map kind.apply)
  | params => Attempt.refuse (params.mismatch halfActivationRoutine)

def halfActivationKernel [Host] : Kernel :=
  .ofBody "ref_activation_f16" [.any] halfActivationRoutine none halfActivationBody

end TensorRuntime
