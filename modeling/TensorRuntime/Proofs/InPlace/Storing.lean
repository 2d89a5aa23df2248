import TensorRuntime.Proofs.InPlace.Loops

/-!
Storing real values in a tensor in place. Lengths and the record are checked before the first
element is written, so that what is refused leaves the tensor as it was.
-/

namespace TensorRuntime

open Attempt InPlace

theorem tabulate_readAt {α : Type} (values : Array α) :
    tabulate values.size (readAt values) = .ok values :=
  tabulate_eq_ok.2 ⟨rfl, fun _ bound => readAt_of_lt bound⟩

theorem Buffer.unrefused_setBit (packed : Array UInt8) (index : Nat) :
    (Buffer.setBit packed index).Unrefused := by
  unfold setBit
  split
  · exact failsOnly_pure _
  · exact unrefused_abort

namespace InPlace

variable {output : Tensor}

def fillBits (bytes : Nat) (values : List Bool) : InPlace Unit := do
  fill .bool bytes fun _ => pure 0
  sweep .bool values.zipIdx fun packed entry =>
    if entry.1 then Buffer.setBit packed entry.2 else pure packed

theorem fills_fillBits (packed : Array UInt8) (values : List Bool) :
    (fillBits packed.size values).Fills (Buffer.Form.bool.wrap packed)
      (Buffer.Form.bool.wrap <$> Buffer.writeBits packed values) := by
  unfold Buffer.writeBits
  rw [Array.map_const']
  refine wrap_filled (fills_sweep (fun entry _ packed => ?_) _)
  split
  · exact Buffer.unrefused_setBit _ _
  · exact failsOnly_pure _

theorem Fills.performs_buffer {routine : InPlace Unit} {before : Buffer}
    {filled : Attempt Buffer} (fills : routine.Fills before filled)
    (held : output.buffer = before) :
    routine.Performs output (do return { output with buffer := ← filled }) :=
  Fills.performs (held ▸ fills) (by cases filled <;> rfl)

theorem Fills.performs_singles {routine : InPlace Unit} {old : Array Single}
    {written : Attempt (Array Single)}
    (fills : routine.Fills (Buffer.Form.f32.wrap old) (Buffer.Form.f32.wrap <$> written))
    (held : output.buffer = .f32 old) :
    routine.Performs output (output.withSingles <$> written) := by
  have filled : routine.Fills output.buffer (Buffer.Form.f32.wrap <$> written) := by
    rw [held]
    exact fills
  exact filled.performs (by cases written <;> rfl)

theorem performs_fillIntegers {old : Array Int} (held : output.buffer.integers? = some old)
    {element : Nat → Attempt Int} (unrefused : ∀ index, (element index).Unrefused) :
    (fillIntegers output.elementType old.size element).Performs output (do
      output.withStored (← tabulate old.size element)) := by
  refine (fills_fillIntegers held unrefused).performs ?_
  cases tabulate old.size element with
  | error fault => rfl
  | ok stored =>
      dsimp only [bind, Except.bind, Tensor.withStored, Tensor.elementType]
      cases Buffer.ofIntegers? output.buffer.elementType stored <;> rfl

theorem performs_mapIntegers {old : Array Int} (held : output.buffer.integers? = some old)
    (function : Nat → Int → Int) :
    (fillIntegers output.elementType old.size fun index => do
      return function index (← readAt old index)).Performs output
        (output.withStored (old.mapIdx function)) := by
  have performs := @performs_fillIntegers _ _ held
    (fun index => do return function index (← readAt old index))
    fun index => (unrefused_readAt _ _).bind fun _ _ => failsOnly_pure _
  rwa [mapIdx_eq_tabulate] at performs

end InPlace

namespace Quantization

def quantizeInto (record : Quantization) (elementType : ElementType) (dims : List Nat)
    (values : Array Single) (outputLength : Nat) : InPlace Unit := do
  checkLengths values.size outputLength dims
  record.validate elementType dims
  let range := elementType.intRange?.getD (-2147483648, 2147483647)
  fillIntegers elementType outputLength fun index => do
    let value ← readAt values index
    return (← record.affineOf (record.channelOf dims index)).quantize range value

theorem performs_quantizeInto {tensor : Tensor} {old : Array Int}
    (held : tensor.buffer.integers? = some old) (record : Quantization) (values : Array Single) :
    (record.quantizeInto tensor.elementType tensor.dims values old.size).Performs tensor (do
      tensor.withStored (← record.quantize tensor.elementType tensor.dims values old.size)) := by
  unfold quantizeInto quantize
  simp only [bind_assoc]
  refine performs_checked fun _ lengths => performs_checked fun _ _ => ?_
  have sizes := lengths_of_check lengths
  rw [mapIdxM_eq_tabulate, show values.size = old.size by omega]
  exact performs_fillIntegers held fun index => (unrefused_readAt _ _).bind fun _ _ =>
    (record.unrefused_affineOf _).bind fun _ _ => failsOnly_pure _

def dequantizeInto (record : Quantization) (elementType : ElementType) (dims : List Nat)
    (stored : Array Int) (outputLength : Nat) : InPlace Unit := do
  checkLengths stored.size outputLength dims
  record.validate elementType dims
  fill .f32 outputLength fun index => do
    let value ← readAt stored index
    return (← record.affineOf (record.channelOf dims index)).dequantize value

theorem performs_dequantizeInto {tensor : Tensor} {old : Array Single}
    (held : tensor.buffer = .f32 old) (record : Quantization) (elementType : ElementType)
    (dims : List Nat) (stored : Array Int) :
    (record.dequantizeInto elementType dims stored old.size).Performs tensor
      (tensor.withSingles <$> record.dequantize elementType dims stored old.size) := by
  unfold dequantizeInto dequantize
  simp only [map_bind]
  refine performs_checked fun _ lengths => performs_checked fun _ _ => ?_
  have sizes := lengths_of_check lengths
  rw [mapIdxM_eq_tabulate, show stored.size = old.size by omega]
  refine Fills.performs_singles (fills_fill fun index => ?_) held
  exact (unrefused_readAt _ _).bind fun _ _ =>
    (record.unrefused_affineOf _).bind fun _ _ => failsOnly_pure _

end Quantization

namespace Tensor

def store (tensor : Tensor) (values : Array Single) : InPlace Unit := do
  if values.size ≠ tensor.count then
    refuse (.shapeMismatch ("write into '" ++ tensor.name ++ "'") [tensor.count] [values.size])
  match tensor.buffer with
  | .f32 old => if old.size = values.size then fill .f32 old.size (readAt values) else abort
  | .f16 old =>
      fill .f16 old.size fun index => do
        return (values[index]?.map Half.ofSingle).getD (← readAt old index)
  | .bool packed => fillBits packed.size (values.toList.map fun value => value != 0)
  | buffer =>
      match buffer.integers?, tensor.quantization with
      | some old, some record =>
          record.quantizeInto tensor.elementType tensor.dims values old.size
      | _, _ => refuse tensor.missingRecord

/-- Storing in place does what storing in a new tensor does. -/
theorem performs_store (tensor : Tensor) (values : Array Single) :
    (tensor.store values).Performs tensor (tensor.writeSingles values) := by
  obtain ⟨name, shape, layout, quantization, kind, buffer⟩ := tensor
  unfold store writeSingles
  refine performs_guard fun fits => ?_
  unfold bufferOfSingles
  cases buffer with
  | f32 old =>
      dsimp only
      split
      · rename_i same
        have fills := @fills_fill _ .f32 old _ (unrefused_readAt values)
        rw [same, tabulate_readAt, ← same] at fills
        exact fills.performs_buffer rfl
      · exact performs_error _
  | f16 old =>
      have fills := @fills_fill _ .f16 old
        (fun index => do return (values[index]?.map Half.ofSingle).getD (← readAt old index))
        fun index => (unrefused_readAt _ _).bind fun _ _ => failsOnly_pure _
      rw [mapIdx_eq_tabulate] at fills
      exact fills.performs_buffer rfl
  | bool packed => exact (fills_fillBits packed _).performs_buffer rfl
  | i8 old | u8 old | i16 old | i32 old =>
      cases quantization with
      | none => exact performs_error _
      | some record =>
          refine cast (congrArg _ ?_) (record.performs_quantizeInto rfl values)
          unfold withStored
          dsimp only [Buffer.integers?]
          cases record.quantize _ _ values _ with
          | error fault => rfl
          | ok stored => rfl

end Tensor

end TensorRuntime
