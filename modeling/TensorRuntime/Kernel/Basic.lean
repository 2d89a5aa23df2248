import TensorRuntime.Kernel.Derived
import TensorRuntime.Params
import TensorRuntime.Tensor

/-! Kernels: one implementation of an operator for an element type. A run gets the outputs as the
caller holds them and gives them back, written or not, together with how it ended. -/

namespace TensorRuntime

structure Call where
  params : Params
  inputs : List Tensor
  outputs : List Tensor
  derived : Option Derived

structure RunResult where
  outputs : List Tensor
  outcome : Attempt Unit

abbrev Precompute := Params → List Tensor → Attempt (Option Derived)

/-- Two kernels with equal signatures are the same kernel; `entry` names the code that runs. -/
structure KernelSignature where
  name : String
  layouts : List Layout
  hasPrecompute : Bool
  entry : String
  deriving DecidableEq, Repr

structure Kernel where
  name : String
  layouts : List Layout
  entry : String
  precompute? : Option Precompute
  run : Call → RunResult

namespace Kernel

def supports (kernel : Kernel) (layout : Layout) : Bool :=
  kernel.layouts.any fun own => own == .any || own == layout

def hasPrecompute (kernel : Kernel) : Bool := kernel.precompute?.isSome

def precompute (kernel : Kernel) (params : Params) (inputs : List Tensor) :
    Attempt (Option Derived) :=
  match kernel.precompute? with
  | some hook => hook params inputs
  | none => pure none

def signature (kernel : Kernel) : KernelSignature :=
  ⟨kernel.name, kernel.layouts, kernel.hasPrecompute, kernel.entry⟩

def layoutsText (layouts : List Layout) : String := bracketed (layouts.map Layout.title)

def text (kernel : Kernel) : String :=
  "FnKernel \x7b name: \"" ++ kernel.name ++ "\", layouts: " ++ layoutsText kernel.layouts ++
    ", precompute: " ++ (if kernel.hasPrecompute then "true" else "false") ++ " \x7d"

/-- The kernel that computes its first output as a whole and writes it only when it succeeds. -/
def ofBody (name : String) (layouts : List Layout) (entry : String)
    (precompute? : Option Precompute) (body : Call → Attempt Tensor) : Kernel where
  name
  layouts
  entry
  precompute?
  run call :=
    match body call with
    | .ok output => ⟨call.outputs.set 0 output, .ok ()⟩
    | .error fault => ⟨call.outputs, .error fault⟩

theorem run_ofBody_error {name : String} {layouts : List Layout} {entry : String}
    {precompute? : Option Precompute} {body : Call → Attempt Tensor} {call : Call} {fault : Fault}
    (failed : body call = .error fault) :
    (ofBody name layouts entry precompute? body).run call = ⟨call.outputs, .error fault⟩ := by
  simp [ofBody, failed]

theorem run_ofBody_ok {name : String} {layouts : List Layout} {entry : String}
    {precompute? : Option Precompute} {body : Call → Attempt Tensor} {call : Call}
    {output : Tensor} (done : body call = .ok output) :
    (ofBody name layouts entry precompute? body).run call =
      ⟨call.outputs.set 0 output, .ok ()⟩ := by
  simp [ofBody, done]

end Kernel

end TensorRuntime
