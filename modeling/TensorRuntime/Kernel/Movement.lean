import TensorRuntime.Kernel.Arguments

/-! Operators that move elements: reshape, transpose and constant padding. Stored values stay as
they are when both records agree; otherwise the real values are stored under the other record. -/

namespace TensorRuntime

def sameElementType (input output : Tensor) (routine : String) : Except Error Unit :=
  if input.elementType = output.elementType then .ok ()
  else
    .error (.unsupportedElementType output.elementType
      (routine ++ " cannot convert " ++ input.elementType.name ++ " to " ++
        output.elementType.name))

def reshapeRoutine : String := "ref_reshape"

def reshapeBody [Host] (call : Call) : Attempt Tensor :=
  match call.params with
  | .reshape _ => do
      let input ← call.input 0 reshapeRoutine
      let output ← call.output reshapeRoutine
      sameElementType input output reshapeRoutine
      if output.count ≠ input.count then
        Attempt.refuse (.shapeMismatch "reshape element count" [input.count] [output.count])
      if Quantization.sameOption input.quantization output.quantization then
        return { output with buffer := input.buffer }
      else output.writeSingles (← input.toSingles)
  | params => Attempt.refuse (params.mismatch reshapeRoutine)

def reshapeKernel [Host] : Kernel := .ofBody "ref_reshape" [.any] reshapeRoutine none reshapeBody

/-- For every output position, the input position that it reads. Axis `i` of the output is axis
`permutation[i]` of the input. -/
def transposeSources (dims permutation : List Nat) : Attempt (List Nat) := do
  let outDims ← permutation.mapM (readAt dims.toArray)
  if volume dims = 0 then return []
  if permutation.length < dims.length then Attempt.abort
  let inStrides := Shape.strides dims
  let strides := (permutation.take dims.length).map fun axis => inStrides.getD axis 0
  (List.range (volume dims)).mapM (Shape.offsetOf (outDims.take dims.length) strides)

def gatherInto {α : Type} (values old : Array α) (sources : List Nat) : Attempt (Array α) := do
  let moved ← (sources.take old.size).mapM (readAt values)
  return moved.toArray ++ old.extract moved.length old.size

def gatherBits (packed old : Array UInt8) (sources : List Nat) : Attempt (Array UInt8) := do
  Buffer.writeBits old (← sources.mapM (Buffer.readBit packed))

def Buffer.gather (values old : Buffer) (sources : List Nat) : Attempt Buffer :=
  match values, old with
  | .f32 values, .f32 old => Buffer.f32 <$> gatherInto values old sources
  | .f16 values, .f16 old => Buffer.f16 <$> gatherInto values old sources
  | .i8 values, .i8 old => Buffer.i8 <$> gatherInto values old sources
  | .u8 values, .u8 old => Buffer.u8 <$> gatherInto values old sources
  | .i16 values, .i16 old => Buffer.i16 <$> gatherInto values old sources
  | .i32 values, .i32 old => Buffer.i32 <$> gatherInto values old sources
  | .bool values, .bool old => Buffer.bool <$> gatherBits values old sources
  | _, _ =>
      Attempt.refuse (.kernelFailure "ref_transpose" "input and output buffers differ in dtype")

def transposeRoutine : String := "ref_transpose"

def transposeBody [Host] (call : Call) : Attempt Tensor :=
  match call.params with
  | .transpose permutation => do
      let input ← call.input 0 transposeRoutine
      let output ← call.output transposeRoutine
      sameElementType input output transposeRoutine
      let sources ← transposeSources input.dims permutation
      if Quantization.sameOption input.quantization output.quantization then
        return { output with buffer := ← input.buffer.gather output.buffer sources }
      else
        let values ← input.toSingles
        output.writeSingles (← sources.mapM (readAt values)).toArray
  | params => Attempt.refuse (params.mismatch transposeRoutine)

def transposeKernel [Host] : Kernel := .ofBody "ref_transpose"
    [.any] transposeRoutine none transposeBody

def padInto (values : Array Single) (dims : List Nat) (pads : List (Nat × Nat))
    (value : Single) (outputSize : Nat) (outDims : List Nat) : Attempt (Array Single) := do
  let rank := dims.length
  if 2 ≤ rank ∧ outDims.length < rank then Attempt.abort
  let strides := match rank with
    | 0 => []
    | 1 => [1]
    | _ => Shape.strides (outDims.take rank)
  let shift := Shape.offset (pads.map Prod.fst) strides
  values.toList.zipIdx.foldlM (fun padded (element, index) => do
    if pads.length < rank then Attempt.abort
    writeAt padded (word ((← Shape.offsetOf dims strides index) + shift)) element)
    (Array.replicate outputSize value)

def padRoutine : String := "ref_pad_f32"

def padBody (call : Call) : Attempt Tensor :=
  match call.params with
  | .pad pads value => do
      let input ← call.input 0 padRoutine
      let outDims := (← call.output padRoutine).dims
      let values ← input.singlesFor padRoutine
      let (output, old) ← call.singleOutput padRoutine
      output.withSingles <$> padInto values input.dims pads value old.size outDims
  | params => Attempt.refuse (params.mismatch padRoutine)

def padKernel : Kernel := .ofBody "ref_pad_f32" [.any] padRoutine none padBody

end TensorRuntime
