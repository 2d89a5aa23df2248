import TensorRuntime.Proofs.Kernel.Safety.Accelerator
import TensorRuntime.Proofs.Kernel.Safety.Elementwise
import TensorRuntime.Proofs.Kernel.Safety.FullyConnected
import TensorRuntime.Proofs.Kernel.Safety.Movement
import TensorRuntime.Proofs.Kernel.Safety.Normalization
import TensorRuntime.Proofs.Kernel.Safety.Pooling
import TensorRuntime.Proofs.Kernel.Safety.Reduction
import TensorRuntime.Proofs.Registration

/-!
The tables of the backends, kernel by kernel. Each is safe for the operator that it is
listed under, as long as those that cut rows are not asked for empty ones.
-/

namespace TensorRuntime

open Attempt

def Backend.cutsRows (backend : Backend) (op : OpKind) : Bool :=
  match op with
  | .fullyConnected => true
  | .conv2d | .depthwiseConv2d | .maxPool2d | .avgPool2d => backend != .reference
  | _ => false

def Kernel.AlwaysSafe (kernel : Kernel) : Prop := ∀ op cutsRows, kernel.SafeFor op cutsRows

def Kernel.SafeOnRows (kernel : Kernel) : Prop := ∀ op, kernel.SafeFor op true

section Kernels

theorem Kernel.alwaysSafe_ofBody {name : String} {layouts : List Layout} {entry : String}
    {hook : Precompute} {precompute? : Option Precompute} {body : Call → Attempt Tensor}
    (own : (ofBody name layouts entry precompute? body).precompute = hook)
    (safe : ∀ {op params inputs output derived},
      AdmittedCall hook op params inputs output derived →
        (body ⟨params, inputs, [output], derived⟩).Safe) :
    (ofBody name layouts entry precompute? body).AlwaysSafe :=
  fun _ _ => safeFor_ofBody own fun _ _ _ _ call _ => safe call

theorem Kernel.safeOnRows_ofBody {name : String} {layouts : List Layout} {entry : String}
    {hook : Precompute} {precompute? : Option Precompute} {body : Call → Attempt Tensor}
    (own : (ofBody name layouts entry precompute? body).precompute = hook)
    (safe : ∀ {op params inputs output derived},
      AdmittedCall hook op params inputs output derived → output.dims.getLast? ≠ some 0 →
        (body ⟨params, inputs, [output], derived⟩).Safe) :
    (ofBody name layouts entry precompute? body).SafeOnRows :=
  fun _ => safeFor_ofBody own fun _ _ _ _ call rows => safe call (rows rfl)

open Kernel (alwaysSafe_ofBody safeOnRows_ofBody)

theorem convKernel_safe : convKernel.AlwaysSafe := alwaysSafe_ofBody rfl convBody_safe

theorem maxPoolKernel_safe : maxPoolKernel.AlwaysSafe := alwaysSafe_ofBody rfl poolBody_safe

theorem avgPoolKernel_safe : avgPoolKernel.AlwaysSafe := alwaysSafe_ofBody rfl poolBody_safe

theorem batchNormKernel_safe : batchNormKernel.AlwaysSafe :=
  alwaysSafe_ofBody rfl batchNormBody_safe

theorem softmaxKernel_safe : softmaxKernel.AlwaysSafe := alwaysSafe_ofBody rfl softmaxBody_safe

theorem fullyConnectedKernel_safe : fullyConnectedKernel.SafeOnRows :=
  safeOnRows_ofBody rfl (fullyConnectedBody_safe (safe_accumulateProductBy _))

theorem padKernel_safe : padKernel.AlwaysSafe := alwaysSafe_ofBody rfl padBody_safe

theorem convBytesKernel_safe [Host] : convBytesKernel.AlwaysSafe :=
  alwaysSafe_ofBody rfl storedConvBody_safe

theorem addBytesKernel_safe : addBytesKernel.AlwaysSafe :=
  alwaysSafe_ofBody rfl storedBinaryBody_safe

theorem addUnsignedBytesKernel_safe : addUnsignedBytesKernel.AlwaysSafe :=
  alwaysSafe_ofBody rfl storedBinaryBody_safe

theorem reluBytesKernel_safe : reluBytesKernel.AlwaysSafe :=
  alwaysSafe_ofBody rfl storedActivationBody_safe

theorem reluUnsignedBytesKernel_safe : reluUnsignedBytesKernel.AlwaysSafe :=
  alwaysSafe_ofBody rfl storedActivationBody_safe

theorem maxPoolBytesKernel_safe : maxPoolBytesKernel.AlwaysSafe :=
  alwaysSafe_ofBody rfl storedPoolBody_safe

theorem maxPoolUnsignedBytesKernel_safe : maxPoolUnsignedBytesKernel.AlwaysSafe :=
  alwaysSafe_ofBody rfl storedPoolBody_safe

theorem binaryKernel_safe : binaryKernel.AlwaysSafe := alwaysSafe_ofBody rfl binaryBody_safe

theorem halfBinaryKernel_safe [Host] : halfBinaryKernel.AlwaysSafe :=
  alwaysSafe_ofBody rfl halfBinaryBody_safe

theorem activationKernel_safe : activationKernel.AlwaysSafe :=
  alwaysSafe_ofBody rfl fun _ => activationBody_safe

theorem halfActivationKernel_safe [Host] : halfActivationKernel.AlwaysSafe :=
  alwaysSafe_ofBody rfl halfActivationBody_safe

theorem reduceKernel_safe : reduceKernel.AlwaysSafe := alwaysSafe_ofBody rfl reduceBody_safe

theorem reshapeKernel_safe [Host] : reshapeKernel.AlwaysSafe :=
  alwaysSafe_ofBody rfl reshapeBody_safe

theorem transposeKernel_safe [Host] : transposeKernel.AlwaysSafe :=
  alwaysSafe_ofBody rfl transposeBody_safe

variable (backend : Backend)

theorem laneConvKernel_safe : (laneConvKernel backend).SafeOnRows :=
  safeOnRows_ofBody rfl laneConvBody_safe

theorem laneDepthwiseKernel_safe : (laneDepthwiseKernel backend).SafeFor .depthwiseConv2d true :=
  Kernel.safeFor_ofBody rfl fun _ _ _ _ call rows => laneDepthwiseBody_safe call (rows rfl)

theorem laneFullyConnectedKernel_safe [Host] : (laneFullyConnectedKernel backend).SafeOnRows :=
  safeOnRows_ofBody rfl (fullyConnectedBody_safe safe_accumulateProductChecked)

theorem lanePoolKernel_safe : (lanePoolKernel backend).SafeOnRows :=
  safeOnRows_ofBody rfl lanePoolBody_safe

theorem laneBinaryKernel_safe : (laneBinaryKernel backend).AlwaysSafe :=
  alwaysSafe_ofBody rfl laneBinaryBody_safe

theorem laneActivationKernel_safe : (laneActivationKernel backend).AlwaysSafe :=
  alwaysSafe_ofBody rfl fun _ => laneActivationBody_safe

theorem acceleratorConvKernel_safe [Host] : acceleratorConvKernel.SafeOnRows :=
  safeOnRows_ofBody rfl fun call rows => safe_withStaged fun _ staged => by
    cases staged
    exact acceleratorConvBody_safe call rows

theorem acceleratorFullyConnectedKernel_safe [Host] : acceleratorFullyConnectedKernel.SafeOnRows :=
  safeOnRows_ofBody rfl fun call rows => safe_withStaged fun _ staged => by
    cases staged
    exact acceleratorFullyConnectedBody_safe call rows

theorem fullyConnectedKernel_needsRows (op : OpKind) : fullyConnectedKernel.NeedsRows op :=
  Kernel.needsRows_ofBody rfl columns_of_fullyConnectedBody

theorem laneConvKernel_needsRows (op : OpKind) : (laneConvKernel backend).NeedsRows op :=
  Kernel.needsRows_ofBody rfl channels_of_laneConvBody

theorem laneDepthwiseKernel_needsRows (op : OpKind) : (laneDepthwiseKernel backend).NeedsRows op :=
  Kernel.needsRows_ofBody rfl channels_of_laneDepthwiseBody

theorem laneFullyConnectedKernel_needsRows [Host] (op : OpKind) :
    (laneFullyConnectedKernel backend).NeedsRows op :=
  Kernel.needsRows_ofBody rfl columns_of_fullyConnectedBody

theorem lanePoolKernel_needsRows (op : OpKind) : (lanePoolKernel backend).NeedsRows op :=
  Kernel.needsRows_ofBody rfl channels_of_lanePoolBody

theorem acceleratorConvKernel_needsRows [Host] (op : OpKind) : acceleratorConvKernel.NeedsRows op :=
  Kernel.needsRows_ofBody rfl fun call done => by
    obtain ⟨staged, held, done⟩ := withStaged_eq_ok done
    cases held
    exact channels_of_acceleratorConvBody call done

theorem acceleratorFullyConnectedKernel_needsRows [Host] (op : OpKind) :
    acceleratorFullyConnectedKernel.NeedsRows op :=
  Kernel.needsRows_ofBody rfl fun call done => by
    obtain ⟨staged, held, done⟩ := withStaged_eq_ok done
    cases held
    exact columns_of_acceleratorFullyConnectedBody call done

end Kernels

namespace Catalogue

theorem scalarKernels_safe [Host] : ∀ item ∈ scalarKernels,
    item.2.2.SafeFor item.1 (Backend.reference.cutsRows item.1) := by
  simp only [scalarKernels, List.forall_mem_append, List.forall_mem_cons, List.forall_mem_flatMap,
    List.forall_mem_map]
  simp only [convKernel_safe _ _, maxPoolKernel_safe _ _, avgPoolKernel_safe _ _,
    batchNormKernel_safe _ _, softmaxKernel_safe _ _, padKernel_safe _ _, convBytesKernel_safe _ _,
    addBytesKernel_safe _ _, addUnsignedBytesKernel_safe _ _, reluBytesKernel_safe _ _,
    reluUnsignedBytesKernel_safe _ _, maxPoolBytesKernel_safe _ _,
    maxPoolUnsignedBytesKernel_safe _ _, binaryKernel_safe _ _, halfBinaryKernel_safe _ _,
    activationKernel_safe _ _, halfActivationKernel_safe _ _, reduceKernel_safe _ _,
    reshapeKernel_safe _ _, transposeKernel_safe _ _]
  simpa [Backend.cutsRows] using fullyConnectedKernel_safe _

theorem laneKernels_safe [Host] (backend : Backend) (wide : backend ≠ .reference) :
    ∀ item ∈ laneKernels backend, item.2.2.SafeFor item.1 (backend.cutsRows item.1) := by
  have cuts : (backend != .reference) = true := by simpa using wide
  simp only [laneKernels, List.forall_mem_append, List.forall_mem_cons, List.forall_mem_map,
    Backend.cutsRows, cuts]
  simp [laneConvKernel_safe backend _, laneDepthwiseKernel_safe backend,
    laneFullyConnectedKernel_safe backend _, lanePoolKernel_safe backend _,
    laneBinaryKernel_safe backend _ _, laneActivationKernel_safe backend _ _]

theorem acceleratorKernels_safe [Host] : ∀ item ∈ acceleratorKernels,
    item.2.2.SafeFor item.1 (Backend.npu.cutsRows item.1) := by
  simp only [acceleratorKernels, List.forall_mem_cons]
  exact ⟨acceleratorConvKernel_safe _, acceleratorConvKernel_safe _,
    acceleratorFullyConnectedKernel_safe _, fun _ impossible => by cases impossible⟩

/-- Every kernel is safe for the operator that its backend lists it under. -/
theorem kernelsOf_safe [Host] (backend : Backend) : ∀ item ∈ kernelsOf backend,
    item.2.2.SafeFor item.1 (backend.cutsRows item.1) := by
  cases backend with
  | reference => exact scalarKernels_safe
  | npu => exact acceleratorKernels_safe
  | neon | avx2 | avx512 => exact laneKernels_safe _ (by decide)

theorem kernelsOf_needRows [Host] (backend : Backend) : ∀ item ∈ kernelsOf backend,
    backend.cutsRows item.1 = true → item.2.2.NeedsRows item.1 := by
  cases backend with
  | reference =>
      simp only [kernelsOf, scalarKernels, List.forall_mem_append, List.forall_mem_cons,
        List.forall_mem_flatMap, List.forall_mem_map]
      simp [Backend.cutsRows, fullyConnectedKernel_needsRows]
  | npu =>
      simp [kernelsOf, acceleratorKernels, acceleratorConvKernel_needsRows,
        acceleratorFullyConnectedKernel_needsRows]
  | neon | avx2 | avx512 =>
      simp [kernelsOf, laneKernels, Backend.cutsRows, laneConvKernel_needsRows,
        laneDepthwiseKernel_needsRows, laneFullyConnectedKernel_needsRows,
        lanePoolKernel_needsRows]

end Catalogue

end TensorRuntime
