import TensorRuntime.Kernel.Arguments
import TensorRuntime.Kernel.Matrix

/-! Fully connected layers: a matrix product with a bias and an activation. -/

namespace TensorRuntime

def TransposedWeights.ofTensor (weights : Tensor) (routine : String) :
    Attempt TransposedWeights :=
  match weights.dims with
  | columns :: inner :: _ => do
      let values ← transposeMatrix (← weights.singlesFor routine) columns inner
      return ⟨inner, columns, values⟩
  | _ => Attempt.abort

def fullyConnectedRoutine : String := "ref_fully_connected_f32"

def transposeWeights : Precompute := fun params inputs =>
  match params with
  | .fullyConnected _ => do
      let weights ← Call.input ⟨params, inputs, [], none⟩ 1 fullyConnectedRoutine
      return some (.transposedWeights
        (← TransposedWeights.ofTensor weights fullyConnectedRoutine))
  | _ => Attempt.refuse (params.mismatch fullyConnectedRoutine)

def startRows (bias : Option (Array Single)) (columns : Nat) (old : Array Single) :
    Attempt (Array Single) := do
  nonzero columns
  tabulate old.size fun index =>
    if index < old.size / columns * columns then
      match bias with
      | some bias =>
          if bias.size = columns then readAt bias (index % columns) else Attempt.abort
      | none => pure 0
    else readAt old index

abbrev Accumulate :=
  Array Single → Array Single → Array Single → Nat → Nat → Nat → Attempt (Array Single)

def fullyConnectedInto (accumulate : Accumulate) (values : Array Single)
    (weights : TransposedWeights) (bias : Option (Array Single)) (activation : FusedActivation)
    (old : Array Single) (rows : Nat) : Attempt (Array Single) := do
  let start ← startRows bias weights.columns old
  let sums ← accumulate values weights.values start rows weights.columns weights.inner
  return sums.map activation.apply

def fullyConnectedBody (routine : String) (accumulate : Accumulate) (call : Call) :
    Attempt Tensor :=
  match call.params with
  | .fullyConnected activation => do
      let input ← call.input 0 routine
      let weights ← call.input 1 routine
      let bias ← biasFor call.inputs[2]? routine
      let transposed ← derivedOr (call.derived.bind Derived.transposedWeights?)
        (TransposedWeights.ofTensor weights routine)
      match input.dims with
      | [] => Attempt.abort
      | rows :: _ =>
          let values ← input.singlesFor routine
          let (output, old) ← call.singleOutput routine
          output.withSingles <$>
            fullyConnectedInto accumulate values transposed bias activation old rows
  | params => Attempt.refuse (params.mismatch routine)

def fullyConnectedKernel : Kernel :=
  .ofBody "ref_fully_connected_f32" [.nc, .any] fullyConnectedRoutine (some transposeWeights)
    (fullyConnectedBody fullyConnectedRoutine accumulateProduct)

end TensorRuntime
