import Mathlib.Data.List.Nodup
import TensorRuntime.Registry

/-! How a registry is built: an arena of entries and an index from keys to their numbers. Each call
leaves the builder it was made on, changed or not, beside its outcome. -/

namespace TensorRuntime

deriving instance Hashable for OpKind, ElementType, Backend, KernelKey

structure RegistryBuilder where
  entries : List Registry.Entry
  index : Std.HashMap KernelKey KernelId

namespace RegistryBuilder

def empty : RegistryBuilder := ⟨[], ∅⟩

def conflict (key : KernelKey) (existing kernel : Kernel) : Error :=
  .registryConflict (key.text ++ ": '" ++ existing.name ++ "' vs '" ++ kernel.name ++ "'")

def register (builder : RegistryBuilder) (key : KernelKey) (kernel : Kernel) :
    RegistryBuilder × Attempt KernelId :=
  match builder.index[key]? with
  | some id =>
      match builder.entries[id.index]? with
      | none => (builder, Attempt.abort)
      | some existing =>
          if existing.kernel.signature = kernel.signature then (builder, .ok id)
          else (builder, Attempt.refuse (conflict key existing.kernel kernel))
  | none =>
      let id : KernelId := ⟨builder.entries.length⟩
      (⟨builder.entries ++ [⟨key, kernel⟩], builder.index.insert key id⟩, .ok id)

def registerEach (builder : RegistryBuilder) :
    List Registry.Entry → RegistryBuilder × List (Attempt KernelId)
  | [] => (builder, [])
  | call :: rest =>
      let step := builder.register call.key call.kernel
      let later := step.1.registerEach rest
      (later.1, step.2 :: later.2)

def build (builder : RegistryBuilder) : Registry := ⟨builder.entries⟩

def after (calls : List Registry.Entry) : RegistryBuilder := (empty.registerEach calls).1

def outcomes (calls : List Registry.Entry) : List (Attempt KernelId) :=
  (empty.registerEach calls).2

end RegistryBuilder

end TensorRuntime
