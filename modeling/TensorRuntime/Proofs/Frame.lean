import TensorRuntime.Proofs.Signature

/-!
The frame of a tensor is everything that writing into it leaves alone: its name and
owner, its signature and how many bytes its buffer holds.
-/

namespace TensorRuntime

open Attempt

structure Frame where
  name : String
  kind : BufferKind
  signature : Signature
  byteCount : Nat

namespace Tensor

def frame (tensor : Tensor) : Frame :=
  ⟨tensor.name, tensor.kind, tensor.signature, tensor.buffer.byteCount⟩

theorem frame_eq_iff {first second : Tensor} :
    first.frame = second.frame ↔ first.name = second.name ∧ first.kind = second.kind ∧
      first.signature = second.signature ∧ first.buffer.byteCount = second.buffer.byteCount := by
  simp [frame]

theorem signature_of_frame {first second : Tensor} (same : first.frame = second.frame) :
    first.signature = second.signature := congrArg Frame.signature same

theorem dims_of_frame {first second : Tensor} (same : first.frame = second.frame) :
    first.dims = second.dims := congrArg (fun frame => frame.signature.shape.dims) same

theorem elementType_of_frame {first second : Tensor} (same : first.frame = second.frame) :
    first.elementType = second.elementType :=
  congrArg (fun frame => frame.signature.elementType) same

theorem quantization_of_frame {first second : Tensor} (same : first.frame = second.frame) :
    first.quantization = second.quantization :=
  congrArg (fun frame => frame.signature.quantization) same

theorem reads_of_frames {α : Type} {read : Tensor → α}
    (framed : ∀ first second : Tensor, first.frame = second.frame → read first = read second)
    {tensors tensors' : List Tensor} (same : tensors.map frame = tensors'.map frame) :
    tensors.map read = tensors'.map read := by
  induction tensors generalizing tensors' with
  | nil =>
      rw [List.map_eq_nil_iff.1 same.symm]
  | cons tensor rest ih =>
      cases tensors' with
      | nil => cases same
      | cons tensor' rest' =>
          simp only [List.map_cons, List.cons.injEq] at same ⊢
          exact ⟨framed _ _ same.1, ih same.2⟩

theorem signatures_of_frames {tensors tensors' : List Tensor}
    (same : tensors.map frame = tensors'.map frame) :
    tensors.map signature = tensors'.map signature :=
  reads_of_frames (fun _ _ => signature_of_frame) same

def withoutData (tensor : Tensor) : Tensor := { tensor with buffer := .f32 #[] }

theorem withoutData_of_frame {first second : Tensor} (same : first.frame = second.frame) :
    first.withoutData = second.withoutData := by
  obtain ⟨name, kind, signature, _⟩ := frame_eq_iff.1 same
  simp only [Tensor.signature, Signature.mk.injEq] at signature
  unfold withoutData
  rw [name, kind, signature.1, signature.2.2.1, signature.2.2.2]

theorem exists_of_frames {tensors tensors' : List Tensor}
    (same : tensors'.map frame = tensors.map frame) {tensor : Tensor} (member : tensor ∈ tensors') :
    ∃ original ∈ tensors, tensor.frame = original.frame := by
  have listed : tensor.frame ∈ tensors.map frame := same ▸ List.mem_map_of_mem member
  obtain ⟨original, inside, frame⟩ := List.mem_map.1 listed
  exact ⟨original, inside, frame.symm⟩

theorem Sized.of_frame {first second : Tensor} (sized : first.Sized)
    (same : second.frame = first.frame) : second.Sized := by
  obtain ⟨_, _, signature, bytes⟩ := frame_eq_iff.1 same
  simp only [Tensor.signature, Signature.mk.injEq] at signature
  unfold Sized count at *
  rw [bytes, sized, signature.1, signature.2.1]

theorem Usable.of_frame {first second : Tensor} (usable : first.Usable)
    (same : second.frame = first.frame) : second.Usable := by
  have records : second.quantization = first.quantization :=
    congrArg Signature.quantization (signature_of_frame same)
  unfold Usable at *
  rw [records]
  exact usable

theorem frame_of_buffer {tensor : Tensor} {buffer : Buffer}
    (elementType : buffer.elementType = tensor.buffer.elementType)
    (bytes : buffer.byteCount = tensor.buffer.byteCount) :
    { tensor with buffer }.frame = tensor.frame := by
  rw [frame_eq_iff]
  refine ⟨rfl, rfl, ?_, bytes⟩
  simp [Tensor.signature, Tensor.elementType, elementType]

theorem frame_of_withSingles {tensor : Tensor} {old values : Array Single}
    (held : tensor.buffer = .f32 old) (size : values.size = old.size) :
    (tensor.withSingles values).frame = tensor.frame := by
  apply frame_of_buffer
  · rw [held]
    rfl
  · rw [held]
    simp [Buffer.byteCount, size]

end Tensor

namespace Buffer

theorem size_of_integers? {buffer : Buffer} {stored : Array Int}
    (integers : buffer.integers? = some stored) :
    buffer.byteCount = buffer.elementType.storageBytes stored.size := by
  cases buffer <;> simp only [integers?, Option.some.injEq, reduceCtorEq] at integers
  all_goals
    subst integers
    simp [byteCount, elementType, ElementType.storageBytes, ElementType.elementSize?]

theorem of_ofIntegers? {elementType : ElementType} {values : Array Int} {buffer : Buffer}
    (built : ofIntegers? elementType values = some buffer) :
    buffer.elementType = elementType ∧
      buffer.byteCount = elementType.storageBytes values.size := by
  cases elementType <;> simp only [ofIntegers?, Option.some.injEq, reduceCtorEq] at built
  all_goals
    subst built
    simp [byteCount, Buffer.elementType, ElementType.storageBytes, ElementType.elementSize?]

theorem size_of_setBit {packed written : Array UInt8} {index : Nat}
    (done : setBit packed index = .ok written) : written.size = packed.size := by
  unfold setBit at done
  split at done
  · rw [pure_eq_ok] at done
    rw [← done]
    simp
  · cases done

theorem size_of_writeBits {packed written : Array UInt8} {values : List Bool}
    (done : writeBits packed values = .ok written) : written.size = packed.size := by
  unfold writeBits at done
  have kept : written.size = (packed.map fun _ => (0 : UInt8)).size := by
    refine foldlM_keeps (fun current : Array UInt8 =>
      current.size = (packed.map fun _ => (0 : UInt8)).size) rfl ?_ done
    intro before entry after size step
    split at step
    · rw [size_of_setBit step, size]
    · cases step
      exact size
  simpa using kept

end Buffer

namespace Quantization

theorem size_of_quantize {record : Quantization} {elementType : ElementType} {dims : List Nat}
    {values : Array Single} {outputLength : Nat} {stored : Array Int}
    (done : record.quantize elementType dims values outputLength = .ok stored) :
    stored.size = outputLength := by
  unfold quantize at done
  simp only [bind_eq_ok, lift_eq_ok] at done
  obtain ⟨_, lengths, _, _, done⟩ := done
  rw [size_of_mapIdxM done]
  unfold checkLengths at lengths
  split at lengths
  · cases lengths
  · omega

end Quantization

namespace Tensor

theorem frame_of_ofIntegers? {tensor : Tensor} {old values : Array Int} {buffer : Buffer}
    (held : tensor.buffer.integers? = some old) (size : values.size = old.size)
    (built : Buffer.ofIntegers? tensor.elementType values = some buffer) :
    { tensor with buffer }.frame = tensor.frame := by
  obtain ⟨elementType, bytes⟩ := Buffer.of_ofIntegers? built
  apply frame_of_buffer elementType
  rw [bytes, Buffer.size_of_integers? held, size]
  rfl

theorem frame_of_withStored {tensor result : Tensor} {old values : Array Int}
    (held : tensor.buffer.integers? = some old) (size : values.size = old.size)
    (done : tensor.withStored values = .ok result) : result.frame = tensor.frame := by
  unfold withStored at done
  split at done
  · rename_i buffer built
    rw [← pure_eq_ok.1 done]
    exact frame_of_ofIntegers? held size built
  · cases done

theorem frame_of_bufferOfSingles {tensor : Tensor} {values : Array Single} {buffer : Buffer}
    (done : tensor.bufferOfSingles values = .ok buffer) :
    { tensor with buffer }.frame = tensor.frame := by
  unfold bufferOfSingles at done
  split at done
  · rename_i old held
    split at done
    · rename_i size
      rw [pure_eq_ok] at done
      subst done
      exact frame_of_withSingles held size.symm
    · cases done
  · rename_i old held
    rw [pure_eq_ok] at done
    subst done
    apply frame_of_buffer
    · rw [held]
      rfl
    · rw [held]
      simp [Buffer.byteCount]
  · rename_i packed held
    rw [map_eq_ok] at done
    obtain ⟨written, done, rfl⟩ := done
    apply frame_of_buffer
    · rw [held]
      rfl
    · rw [held]
      exact Buffer.size_of_writeBits done
  · split at done
    · rename_i old record held recorded
      rw [bind_eq_ok] at done
      obtain ⟨stored, quantized, done⟩ := done
      split at done
      · rename_i built
        rw [← pure_eq_ok.1 done]
        exact frame_of_ofIntegers? held (Quantization.size_of_quantize quantized) built
      · cases done
    · cases done

theorem frame_of_writeSingles {tensor result : Tensor} {values : Array Single}
    (done : tensor.writeSingles values = .ok result) : result.frame = tensor.frame := by
  unfold writeSingles at done
  dsimp only at done
  rw [guard_eq_ok] at done
  simp only [bind_eq_ok, pure_eq_ok] at done
  obtain ⟨_, buffer, written, rfl⟩ := done
  exact frame_of_bufferOfSingles written

end Tensor

end TensorRuntime
