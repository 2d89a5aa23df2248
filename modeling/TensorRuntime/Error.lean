import TensorRuntime.ElementType
import TensorRuntime.Layout
import TensorRuntime.Text.Sizes

/-! Causes of failure, their codes and their wording. -/

namespace TensorRuntime

/-- Why a call was refused. Every cause but `inOperator` has a code of its own. -/
inductive Error where
  | unsupportedElementType (elementType : ElementType) (context : String)
  | unsupportedLayout (layout : Layout) (context : String)
  | kernelUnbound (operator state : String)
  | shapeMismatch (context : String) (expected got : List Nat)
  | allocationFailure (bytes : Nat) (context : String)
  | kernelFailure (kernel reason : String)
  | rebindConflict (operator bound requested : String)
  | registryConflict (key : String)
  | invalidDescriptor (reason : String)
  | invalidGraph (reason : String)
  | invalidConfig (reason : String)
  | inOperator (index : Nat) (name : String) (cause : Error)
  deriving DecidableEq, Repr, Inhabited

namespace Error

def root : Error → Error
  | inOperator _ _ cause => cause.root
  | error => error

def code : Error → Nat
  | unsupportedElementType .. => 1
  | unsupportedLayout .. => 2
  | kernelUnbound .. => 3
  | shapeMismatch .. => 4
  | allocationFailure .. => 5
  | kernelFailure .. => 6
  | rebindConflict .. => 7
  | registryConflict .. => 8
  | invalidDescriptor .. => 9
  | invalidGraph .. => 10
  | invalidConfig .. => 11
  | inOperator _ _ cause => cause.code

def message : Error → String
  | unsupportedElementType elementType context =>
      "unsupported dtype " ++ elementType.name ++ ": " ++ context
  | unsupportedLayout layout context => "unsupported layout " ++ layout.name ++ ": " ++ context
  | kernelUnbound operator state =>
      "operator '" ++ operator ++ "' has no bound kernel (state: " ++ state ++ ")"
  | shapeMismatch context expected got =>
      "shape mismatch in " ++ context ++ ": expected " ++ sizesText expected ++
        ", got " ++ sizesText got
  | allocationFailure bytes context =>
      "failed to allocate " ++ bytes.repr ++ " bytes for " ++ context
  | kernelFailure kernel reason => "kernel '" ++ kernel ++ "' failed: " ++ reason
  | rebindConflict operator bound requested =>
      "operator '" ++ operator ++ "' is bound to " ++ bound ++ ", refusing to rebind to " ++
        requested ++ " before release"
  | registryConflict key => "conflicting registration for " ++ key
  | invalidDescriptor reason => "invalid tensor descriptor: " ++ reason
  | invalidGraph reason => "invalid graph: " ++ reason
  | invalidConfig reason => "invalid config: " ++ reason
  | inOperator index name cause =>
      "operator #" ++ index.repr ++ " '" ++ name ++ "': " ++ cause.message

theorem code_root (error : Error) : error.root.code = error.code := by
  induction error with
  | inOperator index name cause ih => simpa [root, code] using ih
  | _ => rfl

theorem root_inOperator (index : Nat) (name : String) (cause : Error) :
    (inOperator index name cause).root = cause.root := rfl

end Error

/-- How a call can stop short: refused for a cause, or aborted in the middle of its work. -/
inductive Fault where
  | refused (error : Error)
  | aborted
  deriving DecidableEq, Repr, Inhabited

/-- A computation that may abort, for instance by reading outside a buffer. -/
abbrev Attempt := Except Fault

namespace Attempt

def refuse {α : Type} (error : Error) : Attempt α := .error (.refused error)

def abort {α : Type} : Attempt α := .error .aborted

def ofExcept {α : Type} : Except Error α → Attempt α
  | .ok value => .ok value
  | .error error => .error (.refused error)

instance : MonadLift (Except Error) Attempt := ⟨ofExcept⟩

end Attempt

end TensorRuntime
