import Mathlib.Data.List.Nodup
import TensorRuntime.Catalogue

/-!
Which kernels a registry holds. A table whose keys are new is appended whole, so the
default registry holds the tables of all backends, one after the other.
-/

namespace TensorRuntime

variable [Host]

/-- A property of every kernel that the tables name, once for each kernel. -/
structure Catalogue.Every (property : Kernel → Prop) : Prop where
  conv : property convKernel
  maxPool : property maxPoolKernel
  avgPool : property avgPoolKernel
  batchNorm : property batchNormKernel
  softmax : property softmaxKernel
  fullyConnected : property fullyConnectedKernel
  pad : property padKernel
  convBytes : property convBytesKernel
  addBytes : property addBytesKernel
  addUnsignedBytes : property addUnsignedBytesKernel
  reluBytes : property reluBytesKernel
  reluUnsignedBytes : property reluUnsignedBytesKernel
  maxPoolBytes : property maxPoolBytesKernel
  maxPoolUnsignedBytes : property maxPoolUnsignedBytesKernel
  binary : property binaryKernel
  halfBinary : property halfBinaryKernel
  activation : property activationKernel
  halfActivation : property halfActivationKernel
  reduce : property reduceKernel
  reshape : property reshapeKernel
  transpose : property transposeKernel
  laneConv : ∀ backend, property (laneConvKernel backend)
  laneDepthwise : ∀ backend, property (laneDepthwiseKernel backend)
  laneFullyConnected : ∀ backend, property (laneFullyConnectedKernel backend)
  lanePool : ∀ backend, property (lanePoolKernel backend)
  laneBinary : ∀ backend, property (laneBinaryKernel backend)
  laneActivation : ∀ backend, property (laneActivationKernel backend)
  acceleratorConv : property acceleratorConvKernel
  acceleratorFullyConnected : property acceleratorFullyConnectedKernel

namespace Catalogue.Every

variable {property : Kernel → Prop} (every : Every property)

include every

theorem scalar : ∀ item ∈ scalarKernels, property item.2.2 := by
  simp only [scalarKernels, List.forall_mem_append, List.forall_mem_cons, List.forall_mem_flatMap,
    List.forall_mem_map]
  simp [every.conv, every.maxPool, every.avgPool, every.batchNorm, every.softmax,
    every.fullyConnected, every.pad, every.convBytes, every.addBytes, every.addUnsignedBytes,
    every.reluBytes, every.reluUnsignedBytes, every.maxPoolBytes, every.maxPoolUnsignedBytes,
    every.binary, every.halfBinary, every.activation, every.halfActivation, every.reduce,
    every.reshape, every.transpose]

theorem lane (backend : Backend) : ∀ item ∈ laneKernels backend, property item.2.2 := by
  simp [laneKernels, every.laneConv, every.laneDepthwise, every.laneFullyConnected,
    every.lanePool, every.laneBinary, every.laneActivation]

theorem accelerator : ∀ item ∈ acceleratorKernels, property item.2.2 := by
  simp [acceleratorKernels, every.acceleratorConv, every.acceleratorFullyConnected]

end Catalogue.Every

namespace Registry

def entriesOf (backend : Backend) (table : List (OpKind × ElementType × Kernel)) : List Entry :=
  table.map fun item => ⟨⟨item.1, item.2.1, backend⟩, item.2.2⟩

omit [Host] in
/-- A table is appended whole when no key comes twice. -/
theorem registerTable_of_distinct {backend : Backend}
    {table : List (OpKind × ElementType × Kernel)} {registry : Registry}
    (distinct : ((registry.entries ++ entriesOf backend table).map Entry.key).Nodup) :
    registry.registerTable backend table =
      (⟨registry.entries ++ entriesOf backend table⟩, .ok ()) := by
  induction table generalizing registry with
  | nil => simp [registerTable, entriesOf]
  | cons item rest ih =>
      obtain ⟨op, elementType, kernel⟩ := item
      have absent : registry.lookup ⟨op, elementType, backend⟩ = none := by
        rw [List.map_append, List.nodup_append] at distinct
        rw [lookup, Option.map_eq_none_iff, List.findIdx?_eq_none_iff]
        intro entry member
        simpa using distinct.2.2 _ (List.mem_map_of_mem member) ⟨op, elementType, backend⟩
          (by simp [entriesOf])
      have first : registry.entries ++ entriesOf backend ((op, elementType, kernel) :: rest) =
          registry.entries ++ [⟨⟨op, elementType, backend⟩, kernel⟩] ++ entriesOf backend rest := by
        simp [entriesOf]
      rw [first] at distinct ⊢
      unfold registerTable register
      rw [absent]
      exact ih distinct

theorem registerBackends_of_distinct {backends : List Backend} {registry : Registry}
    (distinct : ((registry.entries ++ backends.flatMap fun backend =>
      entriesOf backend (Catalogue.kernelsOf backend)).map Entry.key).Nodup) :
    registry.registerBackends backends = (⟨registry.entries ++ backends.flatMap fun backend =>
      entriesOf backend (Catalogue.kernelsOf backend)⟩, .ok ()) := by
  induction backends generalizing registry with
  | nil => simp [registerBackends]
  | cons backend rest ih =>
      rw [List.flatMap_cons, ← List.append_assoc] at distinct ⊢
      have here := distinct
      rw [List.map_append, List.nodup_append] at here
      rw [registerBackends, registerBackend, registerTable_of_distinct here.1]
      exact ih distinct

omit [Host] in
theorem keys_of_hosts (first second : Host) (backend : Backend) :
    (entriesOf backend (@Catalogue.kernelsOf first backend)).map Entry.key =
      (entriesOf backend (@Catalogue.kernelsOf second backend)).map Entry.key := by
  cases backend <;>
    simp [entriesOf, Catalogue.kernelsOf, Catalogue.scalarKernels, Catalogue.laneKernels,
      Catalogue.acceleratorKernels, List.map_flatMap]

/-- The keys do not depend on the host, so one host is enough to tell them apart. -/
theorem nodup_keys : ((Backend.all.flatMap fun backend =>
    entriesOf backend (Catalogue.kernelsOf backend)).map Entry.key).Nodup := by
  have ranks : (((Backend.all.flatMap fun backend =>
      entriesOf backend (@Catalogue.kernelsOf Host.desktop backend)).map Entry.key).map
        KernelKey.rank).Nodup := by
    decide +kernel
  have onDesktop := List.Nodup.of_map KernelKey.rank ranks
  rw [List.map_flatMap] at onDesktop ⊢
  simpa only [keys_of_hosts _ Host.desktop] using onDesktop

theorem default_eq : Registry.default = ⟨Backend.all.flatMap fun backend =>
    entriesOf backend (Catalogue.kernelsOf backend)⟩ := by
  have distinct : ((empty.entries ++ Backend.all.flatMap fun backend =>
      entriesOf backend (Catalogue.kernelsOf backend)).map Entry.key).Nodup := nodup_keys
  rw [default, registerAll, registerBackends_of_distinct distinct]
  rfl

theorem mem_default {entry : Entry} (member : entry ∈ Registry.default.entries) :
    (entry.key.op, entry.key.elementType, entry.kernel) ∈
      Catalogue.kernelsOf entry.key.backend := by
  rw [default_eq] at member
  obtain ⟨backend, _, listed⟩ := List.mem_flatMap.1 member
  obtain ⟨item, inTable, rfl⟩ := List.mem_map.1 listed
  exact inTable

theorem default_kernels {property : Kernel → Prop} (every : Catalogue.Every property) :
    ∀ entry ∈ Registry.default.entries, property entry.kernel := by
  intro entry member
  have listed := mem_default member
  cases backend : entry.key.backend with
  | reference => exact every.scalar _ (by rwa [backend] at listed)
  | npu => exact every.accelerator _ (by rwa [backend] at listed)
  | neon | avx2 | avx512 => exact every.lane _ _ (by rw [backend] at listed; exact listed)

omit [Host] in
theorem mem_of_kernel? {registry : Registry} {id : KernelId} {kernel : Kernel}
    (found : registry.kernel? id = some kernel) :
    ∃ entry ∈ registry.entries, entry.kernel = kernel := by
  unfold kernel? at found
  rw [Option.map_eq_some_iff] at found
  obtain ⟨entry, place, own⟩ := found
  exact ⟨entry, List.mem_of_getElem? place, own⟩

omit [Host] in
theorem key_of_lookup {registry : Registry} {key : KernelKey} {id : KernelId}
    (found : registry.lookup key = some id) :
    ∃ entry ∈ registry.entries, entry.key = key ∧ registry.kernel? id = some entry.kernel := by
  unfold lookup at found
  obtain ⟨place, first, rfl⟩ := Option.map_eq_some_iff.1 found
  obtain ⟨bound, same, _⟩ := List.findIdx?_eq_some_iff_getElem.1 first
  refine ⟨registry.entries[place], List.getElem_mem bound, of_decide_eq_true ?_, ?_⟩
  · simpa using same
  · simp [kernel?, bound]

def kernelFor (registry : Registry) (key : KernelKey) : Option Kernel :=
  (registry.lookup key).bind registry.kernel?

theorem default_covers : ∀ backend ∈ Backend.all, ∀ item ∈ Catalogue.kernelsOf backend,
    (Registry.default.lookup ⟨item.1, item.2.1, backend⟩).isSome = true := by
  intro backend member item listed
  have present : ⟨⟨item.1, item.2.1, backend⟩, item.2.2⟩ ∈ Registry.default.entries := by
    rw [default_eq]
    exact List.mem_flatMap.2 ⟨backend, member, List.mem_map.2 ⟨item, listed, rfl⟩⟩
  rw [lookup, Option.isSome_map, List.findIdx?_isSome, List.any_eq_true]
  exact ⟨_, present, by simp⟩

theorem kernelFor_default {op : OpKind} {elementType : ElementType} {backend : Backend}
    {kernel : Kernel} (listed : (op, elementType, kernel) ∈ Catalogue.kernelsOf backend)
    (only : ∀ other, (op, elementType, other) ∈ Catalogue.kernelsOf backend → other = kernel) :
    Registry.default.kernelFor ⟨op, elementType, backend⟩ = some kernel := by
  have there := default_covers backend (Backend.mem_all backend) _ listed
  obtain ⟨id, found⟩ := Option.isSome_iff_exists.1 there
  obtain ⟨entry, member, key, own⟩ := key_of_lookup found
  have inTable := mem_default member
  rw [key] at inTable
  rw [kernelFor, found, Option.bind_some, own, only _ inTable]

end Registry

end TensorRuntime
