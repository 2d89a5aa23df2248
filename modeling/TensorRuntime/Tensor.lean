import TensorRuntime.Quantization
import TensorRuntime.Shape

/-! Tensors: a buffer together with what its elements mean. -/

namespace TensorRuntime

inductive BufferKind where
  | external | constant | scratch
  deriving DecidableEq, Repr, Inhabited

namespace BufferKind

def all : List BufferKind := [external, constant, scratch]

def name : BufferKind → String
  | external => "external"
  | constant => "constant"
  | scratch => "scratch"

def ofName? (text : String) : Option BufferKind :=
  all.find? (·.name == text)

end BufferKind

structure Tensor where
  name : String
  shape : Shape
  layout : Layout
  quantization : Option Quantization
  kind : BufferKind
  buffer : Buffer
  deriving Inhabited

/-- A tensor without its name, owner and contents. -/
structure Signature where
  shape : Shape
  elementType : ElementType
  layout : Layout
  quantization : Option Quantization

namespace Tensor

def elementType (tensor : Tensor) : ElementType := tensor.buffer.elementType

def dims (tensor : Tensor) : List Nat := tensor.shape.dims

def count (tensor : Tensor) : Nat := tensor.shape.count

def channels? (tensor : Tensor) : Option Nat :=
  tensor.layout.channelAxis?.bind fun axis => tensor.dims[axis]?

/-- Checks everything that the other operations count on: rank, layout, size of the buffer, and a
quantization record exactly on integer tensors. -/
def validate (tensor : Tensor) : Except Error Unit :=
  let rank := tensor.shape.rank
  let needed := tensor.elementType.storageBytes tensor.count
  if maxRank < rank then
    .error (.invalidDescriptor ("'" ++ tensor.name ++ "': rank " ++ rank.repr ++
      " exceeds maximum " ++ maxRank.repr))
  else if !tensor.layout.acceptsRank rank then
    .error (.unsupportedLayout tensor.layout
      ("tensor '" ++ tensor.name ++ "' has rank " ++ rank.repr))
  else if tensor.buffer.byteCount ≠ needed then
    .error (.invalidDescriptor ("'" ++ tensor.name ++ "': " ++ tensor.count.repr ++
      " elements of " ++ tensor.elementType.name ++ " need " ++ needed.repr ++
      " bytes, buffer has " ++ tensor.buffer.byteCount.repr))
  else
    match tensor.quantization, tensor.elementType.isInteger with
    | some record, true => record.validate tensor.elementType tensor.dims
    | none, false => .ok ()
    | none, true =>
        .error (.invalidDescriptor ("integer tensor '" ++ tensor.name ++ "' (" ++
          tensor.elementType.name ++ ") requires a quantization record"))
    | some _, false =>
        .error (.invalidDescriptor (tensor.elementType.name ++ " tensor '" ++ tensor.name ++
          "' cannot carry a quantization record"))

/-- The tensors that every constructor builds. -/
def Valid (tensor : Tensor) : Prop := tensor.validate = .ok ()

def create (dims : List Nat) (layout : Layout) (buffer : Buffer)
    (quantization : Option Quantization) : Except Error Tensor := do
  let tensor : Tensor := ⟨"", ← Shape.ofDims dims, layout, quantization, .external, buffer⟩
  tensor.validate
  return tensor

def ofSingles (values : Array Single) (dims : List Nat) : Except Error Tensor :=
  create dims .any (.f32 values) none

def ofHalves (values : Array Half) (dims : List Nat) : Except Error Tensor :=
  create dims .any (.f16 values) none

def quantized (buffer : Buffer) (dims : List Nat) (record : Quantization) : Except Error Tensor :=
  create dims .any buffer (some record)

def zeros [Host] (dims : List Nat) (elementType : ElementType)
    (quantization : Option Quantization) : Except Error Tensor := do
  let shape ← Shape.ofDims dims
  create dims .any (← Buffer.zeros elementType shape.count) quantization

def zerosLike [Host] (tensor : Tensor) : Except Error Tensor := do
  return { tensor with buffer := ← Buffer.zeros tensor.elementType tensor.count }

def ofBools (values : List Bool) (dims : List Nat) : Attempt Tensor := do
  let shape ← Shape.ofDims dims
  if values.length ≠ shape.count then
    Attempt.refuse (.shapeMismatch "bool values" [shape.count] [values.length])
  let packed ← Buffer.writeBits
    (Array.replicate (ElementType.bool.storageBytes values.length) 0) values
  create dims .any (.bool packed) none

def withLayout (tensor : Tensor) (layout : Layout) : Except Error Tensor :=
  if layout.acceptsRank tensor.shape.rank then .ok { tensor with layout }
  else .error (.unsupportedLayout layout
    ("tensor '" ++ tensor.name ++ "' has rank " ++ tensor.shape.rank.repr))

def withName (tensor : Tensor) (name : String) : Tensor := { tensor with name }

def withKind (tensor : Tensor) (kind : BufferKind) : Tensor := { tensor with kind }

def boolAt? (tensor : Tensor) (index : Nat) : Attempt (Option Bool) :=
  match tensor.buffer with
  | .bool packed =>
      if index < tensor.count then some <$> Buffer.readBit packed index else pure none
  | _ => pure none

def missingRecord (tensor : Tensor) : Error :=
  .invalidDescriptor ("integer tensor '" ++ tensor.name ++ "' has no quantization record")

def toSingles [Host] (tensor : Tensor) : Attempt (Array Single) := do
  Buffer.allocate tensor.count 4 "dequantized buffer"
  match tensor.buffer with
  | .f32 values => if values.size = tensor.count then pure values else Attempt.abort
  | .f16 values =>
      pure (Array.ofFn fun index : Fin tensor.count =>
        (values[index.val]?.map Half.toSingle).getD 0)
  | .bool packed =>
      tabulate tensor.count fun index => do
        return if ← Buffer.readBit packed index then 1 else 0
  | buffer =>
      match buffer.integers?, tensor.quantization with
      | some stored, some record =>
          record.dequantize tensor.elementType tensor.dims stored tensor.count
      | _, _ => Attempt.refuse tensor.missingRecord

def bufferOfSingles (tensor : Tensor) (values : Array Single) : Attempt Buffer :=
  match tensor.buffer with
  | .f32 old => if old.size = values.size then pure (.f32 values) else Attempt.abort
  | .f16 old =>
      pure (.f16 (old.mapIdx fun index half => (values[index]?.map Half.ofSingle).getD half))
  | .bool packed =>
      Buffer.bool <$> Buffer.writeBits packed (values.toList.map fun value => value != 0)
  | buffer =>
      match buffer.integers?, tensor.quantization with
      | some old, some record => do
          let stored ← record.quantize tensor.elementType tensor.dims values old.size
          match Buffer.ofIntegers? tensor.elementType stored with
          | some buffer => pure buffer
          | none => Attempt.abort
      | _, _ => Attempt.refuse tensor.missingRecord

def writeSingles (tensor : Tensor) (values : Array Single) : Attempt Tensor := do
  if values.size ≠ tensor.count then
    Attempt.refuse (.shapeMismatch ("write into '" ++ tensor.name ++ "'") [tensor.count]
      [values.size])
  return { tensor with buffer := ← tensor.bufferOfSingles values }

def quantizeSingles [Host] (values : Array Single) (dims : List Nat) (elementType : ElementType)
    (quantization : Option Quantization) : Attempt Tensor := do
  (← zeros dims elementType quantization).writeSingles values

def signature (tensor : Tensor) : Signature :=
  ⟨tensor.shape, tensor.elementType, tensor.layout, tensor.quantization⟩

def description (tensor : Tensor) : String :=
  tensor.elementType.name ++ " " ++ tensor.layout.name ++ " " ++ tensor.shape.text

def sameSignature (first second : Tensor) : Bool :=
  first.shape == second.shape && first.elementType == second.elementType &&
    first.layout == second.layout &&
    Quantization.sameOption first.quantization second.quantization

def replaceBuffer (tensor other : Tensor) : Except Error Tensor :=
  if tensor.sameSignature other then .ok { tensor with buffer := other.buffer }
  else .error (.shapeMismatch ("rebinding '" ++ tensor.name ++ "' (" ++ tensor.description ++
    ") with (" ++ other.description ++ ")") tensor.dims other.dims)

end Tensor

namespace Signature

def text (signature : Signature) : String :=
  signature.elementType.name ++ " " ++ signature.layout.name ++ " " ++ signature.shape.text

def same (first second : Signature) : Bool :=
  first.shape == second.shape && first.elementType == second.elementType &&
    first.layout == second.layout &&
    Quantization.sameOption first.quantization second.quantization

/-- A tensor carries this signature and a buffer sized for it. -/
def accepts (signature : Signature) (tensor : Tensor) : Bool :=
  tensor.shape == signature.shape && tensor.elementType == signature.elementType &&
    tensor.layout == signature.layout &&
    Quantization.sameOption tensor.quantization signature.quantization &&
    tensor.buffer.byteCount == signature.elementType.storageBytes signature.shape.count

end Signature

end TensorRuntime
