import TensorRuntime.Kernel.Accelerator
import TensorRuntime.Kernel.Lanes
import TensorRuntime.Kernel.Movement
import TensorRuntime.Kernel.Normalization
import TensorRuntime.Kernel.Reduction
import TensorRuntime.Registry

/-! The kernels of every backend, and registries filled with them. -/

namespace TensorRuntime

variable [Host]

namespace Catalogue

def scalarKernels : List (OpKind × ElementType × Kernel) :=
  [ (.conv2d, .f32, convKernel),
    (.depthwiseConv2d, .f32, convKernel),
    (.groupedConv2d, .f32, convKernel),
    (.maxPool2d, .f32, maxPoolKernel),
    (.avgPool2d, .f32, avgPoolKernel),
    (.batchNorm, .f32, batchNormKernel),
    (.softmax, .f32, softmaxKernel),
    (.fullyConnected, .f32, fullyConnectedKernel),
    (.pad, .f32, padKernel),
    (.conv2d, .i8, convBytesKernel),
    (.add, .i8, addBytesKernel),
    (.add, .u8, addUnsignedBytesKernel),
    (.relu, .i8, reluBytesKernel),
    (.relu, .u8, reluUnsignedBytesKernel),
    (.maxPool2d, .i8, maxPoolBytesKernel),
    (.maxPool2d, .u8, maxPoolUnsignedBytesKernel) ] ++
  ([OpKind.add, .sub, .mul, .maximum, .minimum].flatMap fun op =>
    [(op, .f32, binaryKernel), (op, .f16, halfBinaryKernel)]) ++
  ([OpKind.relu, .relu6, .sigmoid, .tanh].flatMap fun op =>
    [(op, .f32, activationKernel), (op, .f16, halfActivationKernel)]) ++
  ([OpKind.reduceSum, .reduceMean, .reduceMax, .reduceMin].map fun op =>
    (op, .f32, reduceKernel)) ++
  (ElementType.all.flatMap fun elementType =>
    [(.reshape, elementType, reshapeKernel), (.transpose, elementType, transposeKernel)])

def laneKernels (backend : Backend) : List (OpKind × ElementType × Kernel) :=
  [ (.conv2d, .f32, laneConvKernel backend),
    (.depthwiseConv2d, .f32, laneDepthwiseKernel backend),
    (.fullyConnected, .f32, laneFullyConnectedKernel backend),
    (.maxPool2d, .f32, lanePoolKernel backend),
    (.avgPool2d, .f32, lanePoolKernel backend) ] ++
  ([OpKind.add, .sub, .mul, .maximum, .minimum].map fun op =>
    (op, .f32, laneBinaryKernel backend)) ++
  ([OpKind.relu, .relu6, .sigmoid, .tanh].map fun op =>
    (op, .f32, laneActivationKernel backend))

def acceleratorKernels : List (OpKind × ElementType × Kernel) :=
  [ (.conv2d, .i8, acceleratorConvKernel),
    (.depthwiseConv2d, .i8, acceleratorConvKernel),
    (.fullyConnected, .i8, acceleratorFullyConnectedKernel) ]

def kernelsOf : Backend → List (OpKind × ElementType × Kernel)
  | .reference => scalarKernels
  | .npu => acceleratorKernels
  | backend => laneKernels backend

end Catalogue

namespace Registry

def registerBackend (registry : Registry) (backend : Backend) : Registry × Except Error Unit :=
  registry.registerTable backend (Catalogue.kernelsOf backend)

def registerLanes (registry : Registry) (backend : Backend) : Registry × Except Error Unit :=
  if backend.isVector then registry.registerBackend backend
  else (registry, .error (.invalidConfig (backend.name ++ " is not a vector backend")))

def registerBackends (registry : Registry) : List Backend → Registry × Except Error Unit
  | [] => (registry, .ok ())
  | backend :: rest =>
      match registry.registerBackend backend with
      | (registry, .ok ()) => registry.registerBackends rest
      | (registry, .error error) => (registry, .error error)

def registerAll (registry : Registry) : Registry × Except Error Unit :=
  registry.registerBackends Backend.all

def default : Registry := (empty.registerAll).1

end Registry

namespace SimdCapability

def best (capability : SimdCapability) : Backend :=
  if capability.avx512f then .avx512
  else if capability.avx2 then .avx2
  else if capability.neon then .neon
  else .reference

def cpuBackends (capability : SimdCapability) : List Backend :=
  [.reference] ++ (if capability.neon then [.neon] else []) ++
    (if capability.avx2 then [.avx2] else []) ++ (if capability.avx512f then [.avx512] else [])

def hasSimd (capability : SimdCapability) : Bool :=
  capability.avx2 || capability.avx512f || capability.neon

end SimdCapability

def Registry.detected (capability : SimdCapability) : Registry × Except Error Unit :=
  Registry.empty.registerBackends (capability.cpuBackends ++ [.npu])

end TensorRuntime
