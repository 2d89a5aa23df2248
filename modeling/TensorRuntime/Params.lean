import TensorRuntime.Numeric.Single
import TensorRuntime.OpKind

/-! The settings of one operator, independent of the shapes it runs on. -/

namespace TensorRuntime

inductive FusedActivation where
  | none | relu | relu6
  deriving DecidableEq, Repr, Inhabited

namespace FusedActivation

def all : List FusedActivation := [none, relu, relu6]

def name : FusedActivation → String
  | none => "none"
  | relu => "relu"
  | relu6 => "relu6"

def ofName? (text : String) : Option FusedActivation :=
  all.find? (·.name == text)

def apply : FusedActivation → Single → Single
  | none, value => value
  | relu, value => Single.maximum value 0
  | relu6, value => Single.clamp value 0 6

end FusedActivation

structure Padding where
  top : Nat
  left : Nat
  bottom : Nat
  right : Nat
  deriving DecidableEq, Repr, Inhabited

def Padding.uniform (extent : Nat) : Padding := ⟨extent, extent, extent, extent⟩

/-- Pairs are (height, width). -/
structure ConvParams where
  stride : Nat × Nat
  padding : Padding
  dilation : Nat × Nat
  groups : Nat
  activation : FusedActivation
  deriving DecidableEq, Repr, Inhabited

inductive PoolMode where
  | max | avg
  deriving DecidableEq, Repr, Inhabited

namespace PoolMode

def all : List PoolMode := [max, avg]

def name : PoolMode → String
  | max => "max"
  | avg => "avg"

def ofName? (text : String) : Option PoolMode :=
  all.find? (·.name == text)

end PoolMode

/-- Pairs are (height, width). With `countPadding`, padded positions count in an average. -/
structure PoolParams where
  mode : PoolMode
  kernel : Nat × Nat
  stride : Nat × Nat
  padding : Padding
  countPadding : Bool
  deriving DecidableEq, Repr, Inhabited

inductive BinaryOp where
  | add | sub | mul | max | min
  deriving DecidableEq, Repr, Inhabited

namespace BinaryOp

def all : List BinaryOp := [add, sub, mul, max, min]

def name : BinaryOp → String
  | add => "add"
  | sub => "sub"
  | mul => "mul"
  | max => "max"
  | min => "min"

def ofName? (text : String) : Option BinaryOp :=
  all.find? (·.name == text)

def apply : BinaryOp → Single → Single → Single
  | add, first, second => first + second
  | sub, first, second => first - second
  | mul, first, second => first * second
  | max, first, second => Single.maximum first second
  | min, first, second => Single.minimum first second

def kind : BinaryOp → OpKind
  | add => .add
  | sub => .sub
  | mul => .mul
  | max => .maximum
  | min => .minimum

end BinaryOp

inductive ActivationKind where
  | relu | relu6 | sigmoid | tanh
  deriving DecidableEq, Repr, Inhabited

namespace ActivationKind

def all : List ActivationKind := [relu, relu6, sigmoid, tanh]

def name : ActivationKind → String
  | relu => "relu"
  | relu6 => "relu6"
  | sigmoid => "sigmoid"
  | tanh => "tanh"

def ofName? (text : String) : Option ActivationKind :=
  all.find? (·.name == text)

def apply : ActivationKind → Single → Single
  | relu, value => Single.maximum value 0
  | relu6, value => Single.clamp value 0 6
  | sigmoid, value => Single.sigmoid value
  | tanh, value => Single.tanh value

def kind : ActivationKind → OpKind
  | relu => .relu
  | relu6 => .relu6
  | sigmoid => .sigmoid
  | tanh => .tanh

end ActivationKind

inductive ReduceMode where
  | sum | mean | max | min
  deriving DecidableEq, Repr, Inhabited

namespace ReduceMode

def all : List ReduceMode := [sum, mean, max, min]

def name : ReduceMode → String
  | sum => "sum"
  | mean => "mean"
  | max => "max"
  | min => "min"

def ofName? (text : String) : Option ReduceMode :=
  all.find? (·.name == text)

def kind : ReduceMode → OpKind
  | sum => .reduceSum
  | mean => .reduceMean
  | max => .reduceMax
  | min => .reduceMin

end ReduceMode

/-- No axes at all stand for every axis. -/
structure ReduceParams where
  mode : ReduceMode
  axes : List Nat
  keepDims : Bool
  deriving DecidableEq, Repr, Inhabited

def ReduceParams.resolvedAxes (params : ReduceParams) (rank : Nat) : List Nat :=
  if params.axes.isEmpty then List.range rank else params.axes

inductive Params where
  | conv2d (params : ConvParams)
  | pool2d (params : PoolParams)
  | binary (op : BinaryOp) (activation : FusedActivation)
  | activation (kind : ActivationKind)
  | reduce (params : ReduceParams)
  | batchNorm (epsilon : Single)
  | softmax (axis : Nat)
  | fullyConnected (activation : FusedActivation)
  | reshape (target : List Int)
  | transpose (permutation : List Nat)
  | pad (pads : List (Nat × Nat)) (value : Single)
  deriving Inhabited

namespace Params

def family : Params → String
  | conv2d _ => "conv2d"
  | pool2d _ => "pool2d"
  | binary .. => "eltwise"
  | activation _ => "activation"
  | reduce _ => "reduce"
  | batchNorm _ => "batch_norm"
  | softmax _ => "softmax"
  | fullyConnected _ => "fully_connected"
  | reshape _ => "reshape"
  | transpose _ => "transpose"
  | pad .. => "pad"

def arity : Params → Nat × Nat
  | conv2d _ | fullyConnected _ => (2, 3)
  | binary .. => (2, 2)
  | batchNorm _ => (5, 5)
  | _ => (1, 1)

end Params

end TensorRuntime
