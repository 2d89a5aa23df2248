import TensorRuntime.Proofs.InPlace.Elementwise
import TensorRuntime.Proofs.InPlace.Lines
import TensorRuntime.Proofs.InPlace.Movement
import TensorRuntime.Proofs.InPlace.StoredIntegers
import TensorRuntime.Proofs.Operator.Calls
import TensorRuntime.Proofs.Registration

/-!
Which routine each kernel runs on the buffer of its output. A kernel that refuses a call has checked
it before it wrote anything.
-/

namespace TensorRuntime

open Attempt InPlace

/-- The routine that a kernel runs on the buffer of its output. -/
inductive Kernel.WrittenAs [Host] : Kernel → (Call → InPlace Unit) → Prop
  | conv : WrittenAs convKernel InPlace.conv
  | maxPool : WrittenAs maxPoolKernel InPlace.pool
  | avgPool : WrittenAs avgPoolKernel InPlace.pool
  | batchNorm : WrittenAs batchNormKernel InPlace.batchNorm
  | softmax : WrittenAs softmaxKernel InPlace.softmax
  | fullyConnected : WrittenAs fullyConnectedKernel
      (InPlace.fullyConnected fullyConnectedRoutine addProduct)
  | pad : WrittenAs padKernel InPlace.pad
  | convBytes : WrittenAs convBytesKernel InPlace.storedConv
  | addBytes : WrittenAs addBytesKernel (InPlace.storedBinary .i8)
  | addUnsignedBytes : WrittenAs addUnsignedBytesKernel (InPlace.storedBinary .u8)
  | reluBytes : WrittenAs reluBytesKernel (InPlace.storedActivation .i8)
  | reluUnsignedBytes : WrittenAs reluUnsignedBytesKernel (InPlace.storedActivation .u8)
  | maxPoolBytes : WrittenAs maxPoolBytesKernel (InPlace.storedPool .i8)
  | maxPoolUnsignedBytes : WrittenAs maxPoolUnsignedBytesKernel (InPlace.storedPool .u8)
  | binary : WrittenAs binaryKernel InPlace.binary
  | halfBinary : WrittenAs halfBinaryKernel InPlace.halfBinary
  | activation : WrittenAs activationKernel InPlace.activation
  | halfActivation : WrittenAs halfActivationKernel InPlace.halfActivation
  | reduce : WrittenAs reduceKernel InPlace.reduce
  | reshape : WrittenAs reshapeKernel InPlace.reshape
  | transpose : WrittenAs transposeKernel InPlace.transpose
  | laneConv (backend : Backend) : WrittenAs (laneConvKernel backend)
      (InPlace.laneConv backend.lanes)
  | laneDepthwise (backend : Backend) : WrittenAs (laneDepthwiseKernel backend)
      (InPlace.laneDepthwise backend.lanes)
  | laneFullyConnected (backend : Backend) : WrittenAs (laneFullyConnectedKernel backend)
      (InPlace.fullyConnected "vec_fully_connected_f32" addProductChecked)
  | lanePool (backend : Backend) : WrittenAs (lanePoolKernel backend)
      (InPlace.lanePool backend.lanes)
  | laneBinary (backend : Backend) : WrittenAs (laneBinaryKernel backend)
      (InPlace.laneBinary backend.lanes)
  | laneActivation (backend : Backend) : WrittenAs (laneActivationKernel backend)
      (InPlace.laneActivation backend.lanes)
  | acceleratorConv : WrittenAs acceleratorConvKernel
      (onStaged acceleratorConvRoutine InPlace.acceleratorConv)
  | acceleratorFullyConnected : WrittenAs acceleratorFullyConnectedKernel
      (onStaged acceleratorFullyConnectedRoutine InPlace.acceleratorFullyConnected)

namespace Kernel

variable {kernel : Kernel} {routine : Call → InPlace Unit}

def RunsAs (kernel : Kernel) (routine : Call → InPlace Unit) : Prop :=
  ∀ params inputs output derived, ∃ result,
    (routine ⟨params, inputs, [output], derived⟩).Performs output result ∧
      kernel.run ⟨params, inputs, [output], derived⟩ = .ofAttempt output result

theorem runs_ofBody {name : String} {layouts : List Layout} {entry : String}
    {precompute? : Option Precompute} {body : Call → Attempt Tensor}
    (performs : ∀ params inputs output derived,
      (routine ⟨params, inputs, [output], derived⟩).Performs output
        (body ⟨params, inputs, [output], derived⟩)) :
    (ofBody name layouts entry precompute? body).RunsAs routine := by
  intro params inputs output derived
  refine ⟨_, performs params inputs output derived, ?_⟩
  cases ended : body ⟨params, inputs, [output], derived⟩ with
  | ok written => exact run_ofBody_ok ended
  | error fault => exact run_ofBody_error ended

theorem WrittenAs.runs [Host] (written : kernel.WrittenAs routine) : kernel.RunsAs routine := by
  cases written with
  | conv => exact runs_ofBody fun _ _ _ _ => performs_conv
  | maxPool | avgPool => exact runs_ofBody fun _ _ _ _ => performs_pool
  | batchNorm => exact runs_ofBody fun _ _ _ _ => performs_batchNorm
  | softmax => exact runs_ofBody fun _ _ _ _ => performs_softmax
  | fullyConnected =>
      exact runs_ofBody fun _ _ _ _ => performs_fullyConnected addProduct_accumulates
  | pad => exact runs_ofBody fun _ _ _ _ => performs_pad
  | convBytes => exact runs_ofBody fun _ _ _ _ => performs_storedConv
  | addBytes | addUnsignedBytes => exact runs_ofBody fun _ _ _ _ => performs_storedBinary
  | reluBytes | reluUnsignedBytes => exact runs_ofBody fun _ _ _ _ => performs_storedActivation
  | maxPoolBytes | maxPoolUnsignedBytes => exact runs_ofBody fun _ _ _ _ => performs_storedPool
  | binary => exact runs_ofBody fun _ _ _ _ => performs_binary
  | halfBinary => exact runs_ofBody fun _ _ _ _ => performs_halfBinary
  | activation => exact runs_ofBody fun _ _ _ _ => performs_activation
  | halfActivation => exact runs_ofBody fun _ _ _ _ => performs_halfActivation
  | reduce => exact runs_ofBody fun _ _ _ _ => performs_reduce
  | reshape => exact runs_ofBody fun _ _ _ _ => performs_reshape
  | transpose => exact runs_ofBody fun _ _ _ _ => performs_transpose
  | laneConv => exact runs_ofBody fun _ _ _ _ => performs_laneConv
  | laneDepthwise => exact runs_ofBody fun _ _ _ _ => performs_laneDepthwise
  | laneFullyConnected =>
      exact runs_ofBody fun _ _ _ _ => performs_fullyConnected addProductChecked_accumulates
  | lanePool => exact runs_ofBody fun _ _ _ _ => performs_lanePool
  | laneBinary => exact runs_ofBody fun _ _ _ _ => performs_laneBinary
  | laneActivation => exact runs_ofBody fun _ _ _ _ => performs_laneActivation
  | acceleratorConv =>
      exact runs_ofBody fun _ _ _ _ => performs_onStaged fun _ => performs_acceleratorConv
  | acceleratorFullyConnected =>
      exact runs_ofBody fun _ _ _ _ => performs_onStaged fun _ => performs_acceleratorFullyConnected

end Kernel

theorem Catalogue.every_writtenAs [Host] :
    Every fun kernel => ∃ routine, kernel.WrittenAs routine where
  conv := ⟨_, .conv⟩
  maxPool := ⟨_, .maxPool⟩
  avgPool := ⟨_, .avgPool⟩
  batchNorm := ⟨_, .batchNorm⟩
  softmax := ⟨_, .softmax⟩
  fullyConnected := ⟨_, .fullyConnected⟩
  pad := ⟨_, .pad⟩
  convBytes := ⟨_, .convBytes⟩
  addBytes := ⟨_, .addBytes⟩
  addUnsignedBytes := ⟨_, .addUnsignedBytes⟩
  reluBytes := ⟨_, .reluBytes⟩
  reluUnsignedBytes := ⟨_, .reluUnsignedBytes⟩
  maxPoolBytes := ⟨_, .maxPoolBytes⟩
  maxPoolUnsignedBytes := ⟨_, .maxPoolUnsignedBytes⟩
  binary := ⟨_, .binary⟩
  halfBinary := ⟨_, .halfBinary⟩
  activation := ⟨_, .activation⟩
  halfActivation := ⟨_, .halfActivation⟩
  reduce := ⟨_, .reduce⟩
  reshape := ⟨_, .reshape⟩
  transpose := ⟨_, .transpose⟩
  laneConv backend := ⟨_, .laneConv backend⟩
  laneDepthwise backend := ⟨_, .laneDepthwise backend⟩
  laneFullyConnected backend := ⟨_, .laneFullyConnected backend⟩
  lanePool backend := ⟨_, .lanePool backend⟩
  laneBinary backend := ⟨_, .laneBinary backend⟩
  laneActivation backend := ⟨_, .laneActivation backend⟩
  acceleratorConv := ⟨_, .acceleratorConv⟩
  acceleratorFullyConnected := ⟨_, .acceleratorFullyConnected⟩

/-- Every kernel of the default registry has its routine. -/
theorem Registry.default_writtenAs [Host] {id : KernelId} {kernel : Kernel}
    (found : Registry.default.kernel? id = some kernel) : ∃ routine, kernel.WrittenAs routine := by
  obtain ⟨entry, member, rfl⟩ := mem_of_kernel? found
  exact default_kernels Catalogue.every_writtenAs entry member

end TensorRuntime
