import TensorRuntime.Kernel.Basic

/-! How kernels take their arguments apart, and how they refuse what they cannot run on. -/

namespace TensorRuntime

def Params.mismatch (params : Params) (routine : String) : Error :=
  .kernelFailure routine ("unexpected " ++ params.family ++ " parameters")

namespace Call

def input (call : Call) (index : Nat) (routine : String) : Except Error Tensor :=
  match call.inputs[index]? with
  | some tensor => .ok tensor
  | none => .error (.kernelFailure routine ("missing input " ++ index.repr))

def output (call : Call) (routine : String) : Except Error Tensor :=
  match call.outputs[0]? with
  | some tensor => .ok tensor
  | none => .error (.kernelFailure routine "missing output 0")

def singleOutput (call : Call) (routine : String) : Except Error (Tensor × Array Single) := do
  let output ← call.output routine
  match output.buffer with
  | .f32 values => return (output, values)
  | _ =>
      throw (.unsupportedElementType output.elementType (routine ++ " writes f32 output 0"))

end Call

namespace Tensor

def singlesFor (tensor : Tensor) (routine : String) : Except Error (Array Single) :=
  match tensor.buffer with
  | .f32 values => .ok values
  | _ =>
      .error (.unsupportedElementType tensor.elementType
        (routine ++ " expects f32 for '" ++ tensor.name ++ "'"))

def storedFor (tensor : Tensor) (elementType : ElementType) (routine : String) :
    Except Error (Array Int) :=
  match tensor.elementType == elementType, tensor.buffer.integers? with
  | true, some stored => .ok stored
  | _, _ =>
      .error (.unsupportedElementType tensor.elementType
        (routine ++ " expects " ++ elementType.name ++ " for '" ++ tensor.name ++ "'"))

def expect (tensor : Tensor) (elementType : ElementType) (routine : String) :
    Except Error Unit :=
  if tensor.elementType = elementType then .ok ()
  else
    .error (.unsupportedElementType tensor.elementType
      (routine ++ " expects " ++ elementType.name ++ " for '" ++ tensor.name ++ "'"))

def affineFor (tensor : Tensor) (routine : String) : Except Error Affine :=
  match tensor.quantization with
  | some (.perTensor affine) => .ok affine
  | some (.perChannel ..) =>
      .error (.kernelFailure routine
        ("'" ++ tensor.name ++ "' needs a per-tensor quantization record"))
  | none =>
      .error (.kernelFailure routine ("'" ++ tensor.name ++ "' has no quantization record"))

def withSingles (tensor : Tensor) (values : Array Single) : Tensor :=
  { tensor with buffer := .f32 values }

def withStored (tensor : Tensor) (values : Array Int) : Attempt Tensor :=
  match Buffer.ofIntegers? tensor.elementType values with
  | some buffer => pure { tensor with buffer }
  | none => Attempt.abort

end Tensor

def biasFor (bias : Option Tensor) (routine : String) : Except Error (Option (Array Single)) :=
  match bias with
  | some bias => some <$> bias.singlesFor routine
  | none => .ok none

def derivedOr {α : Type} (derived : Option α) (derive : Attempt α) : Attempt α :=
  match derived with
  | some state => pure state
  | none => derive

def realBias [Host] (bias : Option Tensor) : Attempt (Option (Array Single)) :=
  match bias with
  | some bias => some <$> bias.toSingles
  | none => pure none

def repack {α : Type} (values : Array α) (fill : α) (count : Nat) (source : Nat → Nat) :
    Attempt (Array α) :=
  if values.size < count then Attempt.abort
  else
    tabulate values.size fun index =>
      if index < count then readAt values (source index) else pure fill

def nonzero (divisor : Nat) : Attempt Unit :=
  if divisor = 0 then Attempt.abort else pure ()

end TensorRuntime
