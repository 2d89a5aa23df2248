import TensorRuntime.Fallback
import TensorRuntime.OutputShape
import TensorRuntime.Resolution

/-! Operators: settings bound to a kernel in two phases. `prepare` resolves the kernel and derives
its state once, `execute` runs it any number of times, `release` drops the state. -/

namespace TensorRuntime

/-- How long derived state is kept: until it is released, or for one successful run. -/
inductive StateLifetime where
  | untilRelease | oneShot
  deriving DecidableEq, Repr, Inhabited

namespace StateLifetime

def all : List StateLifetime := [untilRelease, oneShot]

def name : StateLifetime → String
  | untilRelease => "until_release"
  | oneShot => "one_shot"

def ofName? (text : String) : Option StateLifetime :=
  all.find? (·.name == text)

end StateLifetime

/-- The tensors that a binding was prepared with: their signatures, and the stored bytes of the
inputs where derived state depends on them. -/
structure BoundTensors where
  inputs : List Signature
  outputs : List Signature
  contents : List (List Nat)

namespace BoundTensors

def capture (kernel : Kernel) (inputs outputs : List Tensor) : BoundTensors :=
  ⟨inputs.map Tensor.signature, outputs.map Tensor.signature,
    if kernel.hasPrecompute then inputs.map fun input => input.buffer.bytes else []⟩

def sameSignatures : List Signature → List Signature → Bool
  | [], [] => true
  | first :: rest, first' :: rest' => first.same first' && sameSignatures rest rest'
  | _, _ => false

def same (first second : BoundTensors) : Bool :=
  sameSignatures first.inputs second.inputs && sameSignatures first.outputs second.outputs &&
    first.contents == second.contents

def mismatch? : List Signature → List Tensor → Nat → Option (Nat × Signature × Tensor)
  | signature :: signatures, tensor :: tensors, place =>
      if signature.accepts tensor then mismatch? signatures tensors (place + 1)
      else some (place, signature, tensor)
  | _, _, _ => none

def checkRole (operator role : String) (bound : List Signature) (given : List Tensor) :
    Except Error Unit :=
  if bound.length ≠ given.length then
    .error (.shapeMismatch ("'" ++ operator ++ "' was prepared with " ++ bound.length.repr ++ " " ++
      role ++ "s, " ++ given.length.repr ++ " given") [bound.length] [given.length])
  else
    match mismatch? bound given 0 with
    | none => .ok ()
    | some (place, signature, tensor) =>
        .error (.shapeMismatch ("'" ++ operator ++ "' " ++ role ++ " #" ++ place.repr ++
          " was prepared as " ++ signature.text ++ ", got " ++ tensor.description)
          signature.shape.dims tensor.dims)

def check (bound : BoundTensors) (operator : String) (inputs outputs : List Tensor) :
    Except Error Unit := do
  checkRole operator "input" bound.inputs inputs
  checkRole operator "output" bound.outputs outputs

end BoundTensors

inductive BindingState where
  | unbound | prepared | executable | released
  deriving DecidableEq, Repr, Inhabited

namespace BindingState

def name : BindingState → String
  | unbound => "unbound"
  | prepared => "prepared"
  | executable => "executable"
  | released => "released"

def isLive : BindingState → Bool
  | prepared | executable => true
  | unbound | released => false

end BindingState

structure Binding where
  phase : BindingState
  resolution? : Option Resolution
  derived? : Option Derived
  bound? : Option BoundTensors

namespace Binding

def unbound : Binding := ⟨.unbound, none, none, none⟩

def state (binding : Binding) : String := binding.phase.name

def isExecutable (binding : Binding) : Bool := binding.phase == .executable

def reset (binding : Binding) : Binding :=
  { binding with resolution? := none, derived? := none, bound? := none }

/-- The resolution of a live binding that reaches another kernel or reaches it another way. -/
def conflict? (binding : Binding) (requested : Resolution) : Option Resolution :=
  if binding.phase.isLive then
    binding.resolution?.filter fun current => !current.sameBinding requested
  else none

def holds (binding : Binding) (bound : BoundTensors) : Bool :=
  binding.isExecutable && binding.bound?.any fun previous => previous.same bound

/-- Prepares a binding for a resolution that does not conflict with it. A live binding keeps its
resolution, and the tensors that it was bound to until others take their place. -/
def prepareFor (binding : Binding) (requested : Resolution) : Binding :=
  match binding.phase with
  | .executable => { binding with phase := .prepared, derived? := none }
  | .prepared => binding
  | .unbound | .released =>
      { binding.reset with phase := .prepared, resolution? := some requested }

end Binding

structure Operator where
  name : String
  params : Params
  binding : Binding
  lifetime : StateLifetime
  allowFallback : Bool
  executions : Nat

structure PrepareResult where
  operator : Operator
  ledger : ShadowLedger
  outcome : Attempt Unit

structure ExecuteResult where
  operator : Operator
  outputs : List Tensor
  ledger : ShadowLedger
  outcome : Attempt Unit

namespace Operator

def create (name : String) (params : Params) (lifetime : StateLifetime) (allowFallback : Bool) :
    Operator :=
  ⟨name, params, .unbound, lifetime, allowFallback, 0⟩

def release (operator : Operator) : Operator :=
  if operator.binding.phase.isLive then
    { operator with binding := { operator.binding.reset with phase := .released } }
  else operator

def checkOutputs (operator : Operator) (inputs outputs : List Tensor) : Attempt Unit := do
  let shape ← operator.params.outputShape inputs
  match outputs, inputs with
  | [output], input :: _ =>
      if output.shape ≠ shape then
        Attempt.refuse (.shapeMismatch ("output '" ++ output.name ++ "' of '" ++ operator.name ++
          "'") shape.dims output.dims)
      if output.elementType ≠ input.elementType then
        Attempt.refuse (.unsupportedElementType output.elementType ("'" ++ operator.name ++
          "' reads " ++ input.elementType.name ++ " but output '" ++ output.name ++ "' is " ++
          output.elementType.name))
  | _, _ =>
      Attempt.refuse (.invalidGraph ("'" ++ operator.name ++ "' produces one output, " ++
        outputs.length.repr ++ " given"))

def missingKernel (id : KernelId) : Error :=
  .invalidGraph ("registry has no kernel #" ++ id.index.repr)

def plan (operator : Operator) (registry : Registry) (backend : Backend)
    (inputs outputs : List Tensor) : Attempt (Resolution × Kernel × BoundTensors) := do
  operator.checkOutputs inputs outputs
  let resolution ←
    registry.resolve operator.params inputs backend operator.allowFallback
  match registry.kernel? resolution.kernel with
  | none => Attempt.refuse (missingKernel resolution.kernel)
  | some kernel => return (resolution, kernel, .capture kernel inputs outputs)

def rebindConflict (operator : Operator) (current requested : Resolution) : Error :=
  .rebindConflict operator.name current.text requested.text

def derive [Host] (operator : Operator) (kernel : Kernel) (path : DispatchPath)
    (inputs : List Tensor) (ledger : ShadowLedger) : ShadowLedger × Attempt (Option Derived) :=
  if !kernel.hasPrecompute then (ledger, .ok none)
  else
    match path with
    | .native => (ledger, kernel.precompute operator.params inputs)
    | .quantFallback => kernel.precomputeOnShadows operator.params inputs ledger

def refresh [Host] (operator : Operator) (kernel : Kernel) (requested : Resolution)
    (bound : BoundTensors) (inputs : List Tensor) (ledger : ShadowLedger) : PrepareResult :=
  let binding := operator.binding.prepareFor requested
  match operator.derive kernel requested.path inputs ledger with
  | (ledger, .error fault) => ⟨{ operator with binding }, ledger, .error fault⟩
  | (ledger, .ok derived) =>
      let derived? := if kernel.hasPrecompute then derived else binding.derived?
      let binding := { binding with phase := .executable, derived?, bound? := some bound }
      ⟨{ operator with binding }, ledger, .ok ()⟩

/-- Binds the operator to the kernel that serves a call. A live binding is only ever refreshed with
the kernel that it has, and left alone when its tensors did not change. -/
def prepare [Host] (operator : Operator) (registry : Registry) (backend : Backend)
    (inputs outputs : List Tensor) (ledger : ShadowLedger) : PrepareResult :=
  match operator.plan registry backend inputs outputs with
  | .error fault => ⟨operator, ledger, .error fault⟩
  | .ok (requested, kernel, bound) =>
      match operator.binding.conflict? requested with
      | some current =>
          ⟨operator, ledger, Attempt.refuse (operator.rebindConflict current requested)⟩
      | none =>
          if operator.binding.holds bound then ⟨operator, ledger, .ok ()⟩
          else operator.refresh kernel requested bound inputs ledger

def reported (kernel : Kernel) : Fault → Fault
  | .refused (.kernelFailure name reason) => .refused (.kernelFailure name reason)
  | .refused (.allocationFailure bytes context) => .refused (.allocationFailure bytes context)
  | .refused error => .refused (.kernelFailure kernel.name error.message)
  | .aborted => .aborted

def runKernel [Host] (operator : Operator) (kernel : Kernel) (path : DispatchPath)
    (derived : Option Derived) (inputs outputs : List Tensor) (ledger : ShadowLedger) :
    ShadowLedger × RunResult :=
  let call : Call := ⟨operator.params, inputs, outputs, derived⟩
  match path with
  | .native => (ledger, kernel.run call)
  | .quantFallback => kernel.runOnShadows call ledger

def executed (operator : Operator) : Operator :=
  let operator := { operator with executions := operator.executions + 1 }
  match operator.lifetime with
  | .untilRelease => operator
  | .oneShot => operator.release

def checkBound (operator : Operator) (inputs outputs : List Tensor) : Except Error Unit :=
  match operator.binding.bound? with
  | some bound => bound.check operator.name inputs outputs
  | none => .ok ()

def execute [Host] (operator : Operator) (registry : Registry) (inputs outputs : List Tensor)
    (ledger : ShadowLedger) : ExecuteResult :=
  match operator.binding.phase, operator.binding.resolution? with
  | .executable, some resolution =>
      match operator.checkBound inputs outputs with
      | .error error => ⟨operator, outputs, ledger, Attempt.refuse error⟩
      | .ok () =>
          match registry.kernel? resolution.kernel with
          | none => ⟨operator, outputs, ledger, Attempt.refuse (missingKernel resolution.kernel)⟩
          | some kernel =>
              let (ledger, result) := operator.runKernel kernel resolution.path
                operator.binding.derived? inputs outputs ledger
              match result.outcome with
              | .ok () => ⟨operator.executed, result.outputs, ledger, .ok ()⟩
              | .error fault =>
                  ⟨operator, result.outputs, ledger, .error (reported kernel fault)⟩
  | phase, _ =>
      ⟨operator, outputs, ledger, Attempt.refuse (.kernelUnbound operator.name phase.name)⟩

end Operator

end TensorRuntime
