import TensorRuntime.Backend
import TensorRuntime.Kernel.Basic

/-! The table of kernels: which kernel runs an operator on an element type on a backend. Entries are
only ever appended, so a kernel's number never changes its meaning. -/

namespace TensorRuntime

structure KernelKey where
  op : OpKind
  elementType : ElementType
  backend : Backend
  deriving DecidableEq, Repr

namespace KernelKey

def text (key : KernelKey) : String :=
  "(" ++ key.op.name ++ ", " ++ key.elementType.name ++ ", " ++ key.backend.name ++ ")"

def rank (key : KernelKey) : Nat :=
  (key.op.position * 7 + key.elementType.position) * 5 + key.backend.position

end KernelKey

structure KernelId where
  index : Nat
  deriving DecidableEq, Repr

structure Registry.Entry where
  key : KernelKey
  kernel : Kernel

structure Registry where
  entries : List Registry.Entry

namespace Registry

def empty : Registry := ⟨[]⟩

def size (registry : Registry) : Nat := registry.entries.length

def lookup (registry : Registry) (key : KernelKey) : Option KernelId :=
  (registry.entries.findIdx? fun entry => entry.key == key).map KernelId.mk

def kernel? (registry : Registry) (id : KernelId) : Option Kernel :=
  registry.entries[id.index]?.map Entry.kernel

def key? (registry : Registry) (id : KernelId) : Option KernelKey :=
  registry.entries[id.index]?.map Entry.key

def register (registry : Registry) (key : KernelKey) (kernel : Kernel) :
    Except Error (Registry × KernelId) :=
  match registry.lookup key with
  | none => .ok (⟨registry.entries ++ [⟨key, kernel⟩]⟩, ⟨registry.size⟩)
  | some id =>
      match registry.kernel? id with
      | none => .error (.registryConflict key.text)
      | some existing =>
          if existing.signature = kernel.signature then .ok (registry, id)
          else
            .error (.registryConflict
              (key.text ++ ": '" ++ existing.name ++ "' vs '" ++ kernel.name ++ "'"))

def registerTable (registry : Registry) (backend : Backend) :
    List (OpKind × ElementType × Kernel) → Registry × Except Error Unit
  | [] => (registry, .ok ())
  | (op, elementType, kernel) :: rest =>
      match registry.register ⟨op, elementType, backend⟩ kernel with
      | .ok (registry, _) => registry.registerTable backend rest
      | .error error => (registry, .error error)

def keys (registry : Registry) : List KernelKey :=
  (registry.entries.map Entry.key).mergeSort fun first second => first.rank ≤ second.rank

def capabilities (registry : Registry) (backend : Backend) : List (OpKind × ElementType) :=
  (registry.keys.filter fun key => key.backend == backend).map fun key => (key.op, key.elementType)

def backendsFor (registry : Registry) (op : OpKind) (elementType : ElementType) : List Backend :=
  Backend.all.filter fun backend => (registry.lookup ⟨op, elementType, backend⟩).isSome

def text (registry : Registry) : String :=
  let counts := Backend.all.filterMap fun backend =>
    let count := registry.entries.countP fun entry => entry.key.backend == backend
    if count = 0 then none else some ("\"" ++ backend.name ++ "\": " ++ count.repr)
  "\x7b" ++ ", ".intercalate counts ++ "\x7d"

end Registry

end TensorRuntime
