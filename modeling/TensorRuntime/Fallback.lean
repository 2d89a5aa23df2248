import TensorRuntime.Kernel.Basic

/-! Running a single-precision kernel for a call on quantized tensors. Quantized inputs are replaced
by single-precision shadows, the kernel writes shadows of the outputs, and their values are stored
in the caller's outputs under the outputs' own records. Shadows live for one call. -/

namespace TensorRuntime

structure ShadowLedger where
  live : Nat
  allocated : Nat
  deriving DecidableEq, Repr, Inhabited

namespace ShadowLedger

def empty : ShadowLedger := ⟨0, 0⟩

def grow (ledger : ShadowLedger) (count : Nat) : ShadowLedger :=
  ⟨ledger.live + count, ledger.allocated + count⟩

def release (ledger : ShadowLedger) (count : Nat) : ShadowLedger :=
  { ledger with live := ledger.live - count }

end ShadowLedger

abbrev ShadowSet := List Tensor

def Tensor.shadowOf (tensor : Tensor) (values : Array Single) : Except Error Tensor := do
  return (← Tensor.create tensor.dims tensor.layout (.f32 values) none).withName tensor.name

variable [Host]

def Tensor.dequantized (tensor : Tensor) : Attempt Tensor := do
  tensor.shadowOf (← tensor.toSingles)

def Tensor.zeroShadow (tensor : Tensor) : Attempt Tensor := do
  Buffer.allocate tensor.count 4 "fallback output shadow"
  tensor.shadowOf (Array.replicate tensor.count 0)

def ShadowSet.add (set : ShadowSet) (ledger : ShadowLedger) (shadow : Attempt Tensor) :
    ShadowSet × ShadowLedger × Attempt Nat :=
  match shadow with
  | .ok shadow => (set ++ [shadow], ledger.grow 1, .ok set.length)
  | .error fault => (set, ledger, .error fault)

def Tensor.needsShadow (tensor : Tensor) : Bool :=
  tensor.elementType.isInteger && tensor.quantization.isSome

/-- Single-precision views of the inputs: shadows of the quantized ones, the others as they are.
Shadows are made in order up to the first failure; the number that was made comes with the views. -/
def floatViews : List Tensor → Nat × Attempt (List Tensor)
  | [] => (0, .ok [])
  | input :: rest =>
      if input.needsShadow then
        match input.dequantized with
        | .error fault => (0, .error fault)
        | .ok shadow =>
            let (made, views) := floatViews rest
            (made + 1, (shadow :: ·) <$> views)
      else
        let (made, views) := floatViews rest
        (made, (input :: ·) <$> views)

def outputShadows : List Tensor → Nat × Attempt (List Tensor)
  | [] => (0, .ok [])
  | output :: rest =>
      match output.zeroShadow with
      | .error fault => (0, .error fault)
      | .ok shadow =>
          let (made, shadows) := outputShadows rest
          (made + 1, (shadow :: ·) <$> shadows)

def storeShadows : List Tensor → List Tensor → List Tensor × Attempt Unit
  | output :: outputs, shadow :: shadows =>
      let stored : Attempt Tensor := do output.writeSingles (← match shadow.buffer with
        | .f32 values => pure values
        | _ => shadow.toSingles)
      match stored with
      | .error fault => (output :: outputs, .error fault)
      | .ok output =>
          let (outputs, outcome) := storeShadows outputs shadows
          (output :: outputs, outcome)
  | outputs, _ => (outputs, .ok ())

namespace Kernel

def precomputeOnShadows (kernel : Kernel) (params : Params) (inputs : List Tensor)
    (ledger : ShadowLedger) : ShadowLedger × Attempt (Option Derived) :=
  let (made, views) := floatViews inputs
  let ledger := ledger.grow made
  (ledger.release made, views.bind (kernel.precompute params))

def runOnShadows (kernel : Kernel) (call : Call) (ledger : ShadowLedger) :
    ShadowLedger × RunResult :=
  let (madeInputs, views) := floatViews call.inputs
  let ledger := ledger.grow madeInputs
  match views with
  | .error fault => (ledger.release madeInputs, ⟨call.outputs, .error fault⟩)
  | .ok views =>
      let (madeOutputs, shadows) := outputShadows call.outputs
      let ledger := ledger.grow madeOutputs
      let released := ledger.release (madeInputs + madeOutputs)
      match shadows with
      | .error fault => (released, ⟨call.outputs, .error fault⟩)
      | .ok shadows =>
          let result := kernel.run { call with inputs := views, outputs := shadows }
          match result.outcome with
          | .error fault => (released, ⟨call.outputs, .error fault⟩)
          | .ok () =>
              let (outputs, outcome) := storeShadows call.outputs result.outputs
              (released, ⟨outputs, outcome⟩)

end Kernel

end TensorRuntime
