import TensorRuntime.Proofs.Frame

/-!
How many elements the buffer of a sized tensor holds: as many as its shape has, with
truth values packed eight to a byte.
-/

namespace TensorRuntime

theorem Buffer.exists_integers {buffer : Buffer} (integer : buffer.elementType.isInteger = true) :
    ∃ stored, buffer.integers? = some stored := by
  cases buffer with
  | f32 | f16 | bool => cases integer
  | i8 | u8 | i16 | i32 => exact ⟨_, rfl⟩

theorem Buffer.isInteger_of_integers? {buffer : Buffer} {stored : Array Int}
    (held : buffer.integers? = some stored) : buffer.elementType.isInteger = true := by
  cases buffer with
  | f32 | f16 | bool => cases held
  | i8 | u8 | i16 | i32 => rfl

theorem ElementType.storageBytes_injective {elementType : ElementType}
    (integer : elementType.isInteger = true) {first second : Nat}
    (same : elementType.storageBytes first = elementType.storageBytes second) :
    first = second := by
  cases elementType with
  | f32 | f16 | bool => cases integer
  | i8 | u8 | i16 | i32 =>
      simp only [storageBytes, elementSize?] at same
      omega

namespace Tensor.Sized

variable {tensor : Tensor}

theorem singles (sized : tensor.Sized) {values : Array Single}
    (held : tensor.buffer = .f32 values) : values.size = tensor.count := by
  unfold Sized elementType at sized
  rw [held] at sized
  simp only [Buffer.byteCount, Buffer.elementType, ElementType.storageBytes,
    ElementType.elementSize?] at sized
  omega

theorem halves (sized : tensor.Sized) {values : Array Half}
    (held : tensor.buffer = .f16 values) : values.size = tensor.count := by
  unfold Sized elementType at sized
  rw [held] at sized
  simp only [Buffer.byteCount, Buffer.elementType, ElementType.storageBytes,
    ElementType.elementSize?] at sized
  omega

theorem bits (sized : tensor.Sized) {packed : Array UInt8}
    (held : tensor.buffer = .bool packed) : packed.size = (tensor.count + 7) / 8 := by
  unfold Sized elementType at sized
  rw [held] at sized
  exact sized

theorem stored (sized : tensor.Sized) {stored : Array Int}
    (held : tensor.buffer.integers? = some stored) : stored.size = tensor.count :=
  ElementType.storageBytes_injective (Buffer.isInteger_of_integers? held)
    ((Buffer.size_of_integers? held).symm.trans sized)

end Tensor.Sized

end TensorRuntime
