import TensorRuntime.Image
import TensorRuntime.Registry

/-! Resolution: which kernel serves a call, decided by its settings and by the extents, element
types and layouts of its inputs. -/

namespace TensorRuntime

/-- How a kernel is driven: on the caller's tensors, or on single-precision copies of them. -/
inductive DispatchPath where
  | native | quantFallback
  deriving DecidableEq, Repr, Inhabited

def DispatchPath.name : DispatchPath → String
  | .native => "native"
  | .quantFallback => "quant_fallback"

structure Resolution where
  op : OpKind
  kernel : KernelId
  path : DispatchPath
  backend : Backend
  layout : Layout
  elementType : ElementType
  deriving DecidableEq, Repr

namespace Resolution

def sameBinding (first second : Resolution) : Bool :=
  first.backend == second.backend && first.kernel == second.kernel && first.path == second.path

def text (resolution : Resolution) : String :=
  resolution.backend.name ++ " (" ++ resolution.op.name ++ ", " ++ resolution.path.name ++ ")"

end Resolution

def ConvParams.classify (params : ConvParams) (input weights : Tensor) : Except Error OpKind := do
  let channels := (← ImageDims.ofTensor input).channels
  if params.groups = 0 ∨ channels % params.groups ≠ 0 then
    throw (.shapeMismatch ("conv2d groups " ++ params.groups.repr ++ " over " ++ channels.repr ++
      " input channels") [channels] [params.groups])
  let perGroup := channels / params.groups
  if weights.dims.length ≠ 4 ∨ weights.dims[1]? ≠ some perGroup then
    throw (.shapeMismatch "conv2d weights [O, I/groups, kh, kw]" [perGroup] weights.dims)
  return if params.groups = 1 then .conv2d
    else if params.groups = channels then .depthwiseConv2d
    else .groupedConv2d

def Params.classify (params : Params) (inputs : List Tensor) : Except Error OpKind :=
  match params with
  | .conv2d settings =>
      match inputs with
      | input :: weights :: _ => settings.classify input weights
      | _ => .error (.invalidGraph "conv2d needs data and weight inputs")
  | .pool2d settings => .ok (match settings.mode with
      | .max => .maxPool2d
      | .avg => .avgPool2d)
  | .binary op _ => .ok op.kind
  | .activation kind => .ok kind.kind
  | .reduce settings => .ok settings.mode.kind
  | .batchNorm _ => .ok .batchNorm
  | .softmax _ => .ok .softmax
  | .fullyConnected _ => .ok .fullyConnected
  | .reshape _ => .ok .reshape
  | .transpose _ => .ok .transpose
  | .pad .. => .ok .pad

/-- The layout that a kernel has to accept: untagged images and matrices are read in the usual
order of axes. -/
def requestedLayout (input : Tensor) : Layout :=
  match input.layout, input.dims.length with
  | .any, 4 => .nchw
  | .any, 2 => .nc
  | layout, _ => layout

namespace Registry

def choose (registry : Registry) (op : OpKind) (elementType : ElementType) (backend : Backend)
    (allowFallback : Bool) : Except Error (KernelId × DispatchPath × ElementType) :=
  match registry.lookup ⟨op, elementType, backend⟩ with
  | some id => .ok (id, .native, elementType)
  | none =>
      if elementType.isLowPrecision && allowFallback then
        match registry.lookup ⟨op, .f32, backend⟩ with
        | some id => .ok (id, .quantFallback, .f32)
        | none =>
            .error (.unsupportedElementType elementType ("no " ++ op.name ++ " kernel for " ++
              elementType.name ++ " or f32 on " ++ backend.name))
      else
        .error (.unsupportedElementType elementType ("no " ++ op.name ++ " kernel for " ++
          elementType.name ++ " on " ++ backend.name))

def resolve (registry : Registry) (params : Params) (inputs : List Tensor) (backend : Backend)
    (allowFallback : Bool) : Except Error Resolution := do
  let op ← params.classify inputs
  match inputs with
  | [] => throw (.invalidGraph (op.name ++ " has no inputs"))
  | input :: _ =>
      let (id, path, elementType) ← registry.choose op input.elementType backend allowFallback
      let layout := requestedLayout input
      match registry.kernel? id with
      | none => throw (.invalidGraph ("registry has no kernel #" ++ id.index.repr))
      | some kernel =>
          if kernel.supports layout then return ⟨op, id, path, backend, layout, elementType⟩
          else
            throw (.unsupportedLayout layout (kernel.name ++ " (" ++ op.name ++ ", " ++
              elementType.name ++ ", " ++ backend.name ++ ") accepts " ++
              Kernel.layoutsText kernel.layouts))

end Registry

end TensorRuntime
