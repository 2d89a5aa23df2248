/-! The machine that kernels run on. -/

namespace TensorRuntime

structure SimdCapability where
  avx2 : Bool
  avx512f : Bool
  neon : Bool
  fma : Bool
  deriving DecidableEq, Repr

/-- What a run depends on of its machine: the vector instructions of the processor, and the most
bytes that one allocation gets. -/
class Host where
  processor : SimdCapability
  allocationLimit : Nat

/-- A desktop machine, for programs that name no other. -/
instance (priority := low) Host.desktop : Host := ⟨⟨true, false, false, true⟩, 1 <<< 36⟩

def Host.fusesProducts [Host] : Bool := Host.processor.avx2 && Host.processor.fma

end TensorRuntime
