import TensorRuntime.Kernel.Accelerator
import TensorRuntime.Kernel.Movement
import TensorRuntime.Proofs.Kernel.Calls
import TensorRuntime.Proofs.Sizes

/-!
Putting another buffer of the same type and size into a tensor. Writers that ask the
tensor for its size only, or that fill it to the end, write the same into either.
-/

namespace TensorRuntime

open Attempt

structure Buffer.Fits (buffer old : Buffer) : Prop where
  elementType : buffer.elementType = old.elementType
  byteCount : buffer.byteCount = old.byteCount

theorem Tensor.refill_of_frame {output output' : Tensor} (same : output'.frame = output.frame) :
    ∃ buffer, Buffer.Fits buffer output.buffer ∧ output' = { output with buffer } := by
  obtain ⟨name, kind, signature, bytes⟩ := frame_eq_iff.1 same
  simp only [Tensor.signature, Signature.mk.injEq] at signature
  obtain ⟨shape, elementType, layout, records⟩ := signature
  refine ⟨output'.buffer, ⟨elementType, bytes⟩, ?_⟩
  cases output'
  simp_all

section Refill

variable {params : Params} {inputs : List Tensor} {output : Tensor} {derived : Option Derived}
  {buffer : Buffer} {routine : String}

theorem Buffer.Fits.singles {old : Array Single} (fits : buffer.Fits (.f32 old)) :
    ∃ values, buffer = .f32 values ∧ values.size = old.size := by
  obtain ⟨elementType, bytes⟩ := fits
  cases buffer with
  | f32 values =>
      refine ⟨values, rfl, ?_⟩
      simp only [Buffer.byteCount] at bytes
      omega
  | f16 | i8 | u8 | i16 | i32 | bool => cases elementType

theorem Buffer.Fits.integers {old : Buffer} (fits : buffer.Fits old) :
    (buffer.integers? = none ∧ old.integers? = none) ∨
      ∃ stored oldStored, buffer.integers? = some stored ∧ old.integers? = some oldStored ∧
        stored.size = oldStored.size := by
  obtain ⟨elementType, bytes⟩ := fits
  by_cases integer : old.elementType.isInteger = true
  · obtain ⟨oldStored, oldHeld⟩ := exists_integers integer
    obtain ⟨stored, held⟩ := exists_integers (elementType ▸ integer)
    refine .inr ⟨stored, oldStored, held, oldHeld, ?_⟩
    rw [size_of_integers? held, size_of_integers? oldHeld, elementType] at bytes
    exact ElementType.storageBytes_injective integer bytes
  · have absent : ∀ other : Buffer, other.elementType = old.elementType →
        other.integers? = none := by
      intro other same
      cases held : other.integers? with
      | none => rfl
      | some stored => exact absurd (same ▸ isInteger_of_integers? held) integer
    exact .inl ⟨absent buffer elementType, absent old rfl⟩

theorem Call.output_bind {α : Type} (next : Tensor → Attempt α) :
    (liftM (Call.output ⟨params, inputs, [output], derived⟩ routine) >>= next : Attempt α) =
      next output := rfl

theorem Call.singleOutput_bind {α : Type} {next next' : Tensor × Array Single → Attempt α}
    (fits : buffer.Fits output.buffer)
    (same : ∀ old old' : Array Single, output.buffer = .f32 old → old'.size = old.size →
      next' ({ output with buffer := .f32 old' }, old') = next (output, old)) :
    (liftM (Call.singleOutput ⟨params, inputs, [{ output with buffer }], derived⟩ routine) >>=
        next' : Attempt α) =
      (liftM (Call.singleOutput ⟨params, inputs, [output], derived⟩ routine) >>= next) := by
  cases output with
  | mk name shape layout quantization kind held =>
      cases held with
      | f32 old =>
          obtain ⟨old', rfl, size⟩ := fits.singles
          rw [singleOutput_eq rfl, singleOutput_eq rfl]
          exact same old old' rfl size
      | f16 | i8 | u8 | i16 | i32 | bool =>
          cases buffer <;> first | rfl | cases fits.elementType

theorem Tensor.storedSlots_refill (fits : buffer.Fits output.buffer) (elementType : ElementType) :
    ({ output with buffer } : Tensor).storedSlots elementType routine =
      output.storedSlots elementType routine := by
  have sameType : ({ output with buffer } : Tensor).elementType = output.elementType :=
    fits.elementType
  unfold storedSlots
  rw [sameType]
  rcases fits.integers with ⟨absent, absent'⟩ | ⟨stored, oldStored, held, held', size⟩
  · rw [absent', show ({ output with buffer } : Tensor).buffer.integers? = none from absent]
  · rw [held', show ({ output with buffer } : Tensor).buffer.integers? = some stored from held]
    cases output.elementType == elementType <;> simp [size]

theorem Tensor.withStored_refill (fits : buffer.Fits output.buffer) (values : Array Int) :
    ({ output with buffer } : Tensor).withStored values = output.withStored values := by
  have sameType : ({ output with buffer } : Tensor).elementType = output.elementType :=
    fits.elementType
  unfold withStored
  rw [sameType]

end Refill

theorem Tensor.signedBytes_bind {α : Type} {output : Tensor} {buffer : Buffer}
    {refusal : Error} {next next' : Array Int → Attempt α} (fits : buffer.Fits output.buffer)
    (same : ∀ old old' : Array Int, old'.size = old.size → next' old' = next old) :
    (liftM (({ output with buffer } : Tensor).signedBytes refusal) >>= next' : Attempt α) =
      (liftM (output.signedBytes refusal) >>= next) := by
  cases output with
  | mk name shape layout quantization kind held =>
      cases held with
      | i8 old =>
          cases buffer with
          | i8 old' =>
              have size : old'.size = old.size := fits.byteCount
              exact same _ _ (by simpa using size)
          | f32 | f16 | u8 | i16 | i32 | bool => cases fits.elementType
      | f32 | f16 | u8 | i16 | i32 | bool =>
          cases buffer <;> first | rfl | cases fits.elementType

theorem Tensor.expect_refill {output : Tensor} {buffer : Buffer} (fits : buffer.Fits output.buffer)
    (elementType : ElementType) (routine : String) :
    ({ output with buffer } : Tensor).expect elementType routine =
      output.expect elementType routine := by
  have sameType : ({ output with buffer } : Tensor).elementType = output.elementType :=
    fits.elementType
  unfold expect
  rw [sameType]

theorem Tensor.bufferOfSingles_integers {tensor : Tensor} {values : Array Single}
    {old : Array Int} (held : tensor.buffer.integers? = some old) :
    tensor.bufferOfSingles values =
      match tensor.quantization with
      | some record => do
          let stored ← record.quantize tensor.elementType tensor.dims values old.size
          match Buffer.ofIntegers? tensor.elementType stored with
          | some buffer => pure buffer
          | none => Attempt.abort
      | none => Attempt.refuse tensor.missingRecord := by
  unfold bufferOfSingles
  cases buffer : tensor.buffer with
  | f32 | f16 | bool =>
      rw [buffer] at held
      cases held
  | i8 | u8 | i16 | i32 =>
      rw [buffer] at held
      dsimp only
      rw [held]
      cases tensor.quantization <;> rfl

theorem mapIdx_halves_eq {old old' : Array Half} {values : Array Single}
    (size : old.size = values.size) (size' : old'.size = values.size) :
    old'.mapIdx (fun index half => (values[index]?.map Half.ofSingle).getD half) =
      old.mapIdx fun index half => (values[index]?.map Half.ofSingle).getD half := by
  apply Array.ext
  · simp [size, size']
  · intro index bound bound'
    have inside : index < values.size := by simpa [size'] using bound
    simp [inside]

theorem writeBits_eq_of_size {packed packed' : Array UInt8} (size : packed'.size = packed.size)
    (bits : List Bool) : Buffer.writeBits packed' bits = Buffer.writeBits packed bits := by
  have cleared : (packed'.map fun _ => (0 : UInt8)) = packed.map fun _ => (0 : UInt8) := by
    apply Array.ext
    · simp [size]
    · simp
  unfold Buffer.writeBits
  rw [cleared]

theorem Tensor.bufferOfSingles_refill {output : Tensor} {buffer : Buffer} {values : Array Single}
    (fits : buffer.Fits output.buffer) (sized : output.Sized)
    (size : values.size = output.count) :
    ({ output with buffer } : Tensor).bufferOfSingles values = output.bufferOfSingles values := by
  have refillSized : ({ output with buffer } : Tensor).Sized :=
    sized.of_frame (frame_of_buffer fits.elementType fits.byteCount)
  cases output with
  | mk name shape layout quantization kind held =>
      cases held with
      | f32 old =>
          obtain ⟨old', rfl, oldSize⟩ := fits.singles
          unfold bufferOfSingles
          dsimp only
          rw [oldSize]
      | f16 old =>
          cases buffer with
          | f16 old' =>
              have oldSize : old.size = values.size := (sized.halves rfl).trans size.symm
              have oldSize' : old'.size = values.size := (refillSized.halves rfl).trans size.symm
              unfold bufferOfSingles
              dsimp only
              rw [mapIdx_halves_eq oldSize oldSize']
          | f32 | i8 | u8 | i16 | i32 | bool => cases fits.elementType
      | bool packed =>
          cases buffer with
          | bool packed' =>
              unfold bufferOfSingles
              dsimp only
              rw [writeBits_eq_of_size fits.byteCount]
          | f32 | f16 | i8 | u8 | i16 | i32 => cases fits.elementType
      | i8 | u8 | i16 | i32 =>
          rcases fits.integers with ⟨_, absent⟩ | ⟨stored, oldStored, held, held', sizes⟩
          · cases absent
          · have sameType := fits.elementType
            rw [bufferOfSingles_integers held, bufferOfSingles_integers held', sizes]
            unfold Tensor.elementType
            dsimp only at sameType ⊢
            rw [sameType]
            rfl

theorem Tensor.writeSingles_refill {output : Tensor} {buffer : Buffer}
    (fits : buffer.Fits output.buffer) (sized : output.Sized) (values : Array Single) :
    ({ output with buffer } : Tensor).writeSingles values = output.writeSingles values := by
  unfold writeSingles
  by_cases wrong : values.size ≠ output.count
  · have wrong' : values.size ≠ ({ output with buffer } : Tensor).count := wrong
    rw [if_pos wrong, if_pos wrong']
    rfl
  · have right' : ¬ values.size ≠ ({ output with buffer } : Tensor).count := wrong
    rw [if_neg wrong, if_neg right',
      bufferOfSingles_refill fits sized (Classical.not_not.1 wrong)]

theorem gatherInto_size {α : Type} {values old old' : Array α} {sources : List Nat}
    (size : old'.size = old.size) (full : old.size ≤ sources.length) :
    gatherInto values old' sources = gatherInto values old sources := by
  unfold gatherInto
  rw [size]
  apply bind_congr_ok
  intro moved read
  rw [mapM_eq_ok] at read
  have length : moved.length = old.size := by
    have lengths := congrArg List.length read
    simp only [List.length_map, List.length_take] at lengths
    omega
  have nothing : ∀ rest : Array α, rest.extract old.size old.size = #[] := by
    intro rest
    apply Array.eq_empty_of_size_eq_zero
    rw [Array.size_extract]
    omega
  rw [length, nothing, nothing]

theorem Buffer.gather_refill {values old buffer : Buffer} {sources : List Nat}
    (fits : buffer.Fits old)
    (full : old.byteCount = old.elementType.storageBytes sources.length) :
    values.gather buffer sources = values.gather old sources := by
  have sizes := fits.byteCount
  cases old with
  | bool packed =>
      cases buffer with
      | bool packed' =>
          have size : packed'.size = packed.size := sizes
          have cleared : (packed'.map fun _ => (0 : UInt8)) = packed.map fun _ => (0 : UInt8) := by
            apply Array.ext
            · simp [size]
            · simp
          cases values with
          | bool source =>
              unfold gather gatherBits writeBits
              dsimp only
              rw [cleared]
          | _ => rfl
      | _ => cases fits.elementType
  | f32 old | f16 old | i8 old | u8 old | i16 old | i32 old =>
      simp only [byteCount, elementType, ElementType.storageBytes,
        ElementType.elementSize?] at full
      cases buffer <;> try cases fits.elementType
      rename_i old'
      have size : old'.size = old.size := by
        simp only [byteCount] at sizes
        omega
      cases values <;> try rfl
      unfold gather
      dsimp only
      rw [gatherInto_size size (by omega)]

end TensorRuntime
