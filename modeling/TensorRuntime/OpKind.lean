/-! The kinds of operators that kernels are registered for. -/

namespace TensorRuntime

inductive OpKind where
  | conv2d | depthwiseConv2d | groupedConv2d
  | maxPool2d | avgPool2d
  | add | sub | mul | maximum | minimum
  | relu | relu6 | sigmoid | tanh
  | reduceSum | reduceMean | reduceMax | reduceMin
  | batchNorm | softmax | fullyConnected | reshape | transpose | pad
  deriving DecidableEq, Repr, Inhabited

namespace OpKind

def all : List OpKind :=
  [conv2d, depthwiseConv2d, groupedConv2d, maxPool2d, avgPool2d, add, sub, mul, maximum, minimum,
    relu, relu6, sigmoid, tanh, reduceSum, reduceMean, reduceMax, reduceMin, batchNorm, softmax,
    fullyConnected, reshape, transpose, pad]

def name : OpKind → String
  | conv2d => "conv2d"
  | depthwiseConv2d => "depthwise_conv2d"
  | groupedConv2d => "grouped_conv2d"
  | maxPool2d => "max_pool2d"
  | avgPool2d => "avg_pool2d"
  | add => "add"
  | sub => "sub"
  | mul => "mul"
  | maximum => "maximum"
  | minimum => "minimum"
  | relu => "relu"
  | relu6 => "relu6"
  | sigmoid => "sigmoid"
  | tanh => "tanh"
  | reduceSum => "reduce_sum"
  | reduceMean => "reduce_mean"
  | reduceMax => "reduce_max"
  | reduceMin => "reduce_min"
  | batchNorm => "batch_norm"
  | softmax => "softmax"
  | fullyConnected => "fully_connected"
  | reshape => "reshape"
  | transpose => "transpose"
  | pad => "pad"

def position : OpKind → Nat
  | conv2d => 0
  | depthwiseConv2d => 1
  | groupedConv2d => 2
  | maxPool2d => 3
  | avgPool2d => 4
  | add => 5
  | sub => 6
  | mul => 7
  | maximum => 8
  | minimum => 9
  | relu => 10
  | relu6 => 11
  | sigmoid => 12
  | tanh => 13
  | reduceSum => 14
  | reduceMean => 15
  | reduceMax => 16
  | reduceMin => 17
  | batchNorm => 18
  | softmax => 19
  | fullyConnected => 20
  | reshape => 21
  | transpose => 22
  | pad => 23

def ofName? (text : String) : Option OpKind :=
  all.find? (·.name == text)

end OpKind

end TensorRuntime
