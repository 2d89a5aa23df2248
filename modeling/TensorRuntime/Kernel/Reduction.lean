import TensorRuntime.Kernel.Arguments

/-! Sums, means, maxima and minima over some axes. -/

namespace TensorRuntime

namespace ReduceMode

def start : ReduceMode → Single
  | sum | mean => 0
  | max => Single.negativeInfinity
  | min => Single.positiveInfinity

def step : ReduceMode → Single → Single → Single
  | sum, total, value | mean, total, value => total + value
  | max, total, value => Single.maximum total value
  | min, total, value => Single.minimum total value

end ReduceMode

def keptStrides (axes : List Nat) : Nat → List Nat → List Nat
  | _, [] => []
  | axis, _ :: inner =>
      let rest := keptStrides axes (axis + 1) inner
      let size := (inner.zipIdx (axis + 1)).foldl
        (fun product entry => if entry.2 ∈ axes then product else product * entry.1) 1
      (if axis ∈ axes then 0 else size) :: rest

def reduceInto (params : ReduceParams) (values : Array Single) (dims : List Nat)
    (outputSize : Nat) : Attempt (Array Single) := do
  let axes := params.resolvedAxes dims.length
  if axes.any fun axis => dims.length ≤ axis then Attempt.abort
  let strides := keptStrides axes 0 dims
  let totals ← values.toList.zipIdx.foldlM (fun totals (value, index) => do
    let place ← Shape.offsetOf dims strides index
    let total ← readAt totals place
    writeAt totals place (params.mode.step total value))
    (Array.replicate outputSize params.mode.start)
  let count := volume (axes.map fun axis => dims.getD axis 0)
  if params.mode = .mean ∧ 0 < count then
    let inverse := 1 / Single.ofNat count
    return totals.map (· * inverse)
  else return totals

def reduceRoutine : String := "ref_reduce_f32"

def reduceBody (call : Call) : Attempt Tensor :=
  match call.params with
  | .reduce params => do
      let input ← call.input 0 reduceRoutine
      let (output, old) ← call.singleOutput reduceRoutine
      let values ← input.singlesFor reduceRoutine
      output.withSingles <$> reduceInto params values input.dims old.size
  | params => Attempt.refuse (params.mismatch reduceRoutine)

def reduceKernel : Kernel := .ofBody "ref_reduce_f32" [.any] reduceRoutine none reduceBody

end TensorRuntime
