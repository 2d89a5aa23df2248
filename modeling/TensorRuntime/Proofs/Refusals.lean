import TensorRuntime.Proofs.RealValues

/-!
Computations that never refuse. Loops over buffers only abort, so that a safe one gives a
value; with it, the real values of valid tensors can be read and stored.
-/

namespace TensorRuntime

namespace Attempt

abbrev Unrefused {α : Type} (attempt : Attempt α) : Prop := FailsOnly (· = .aborted) attempt

section Values

variable {α β : Type}

theorem unrefused_abort : Unrefused (abort : Attempt α) := failsOnly_error.2 rfl

theorem Safe.exists_ok {attempt : Attempt α} (safe : attempt.Safe)
    (unrefused : attempt.Unrefused) : ∃ value, attempt = .ok value := by
  cases attempt with
  | ok value => exact ⟨value, rfl⟩
  | error fault => exact absurd (congrArg Except.error (unrefused fault rfl)) safe

theorem exists_mapM {items : List α} {step : α → Attempt β}
    (each : ∀ item ∈ items, ∃ value, step item = .ok value) :
    ∃ values, items.mapM step = .ok values := by
  refine Safe.exists_ok (safe_mapM fun item member => ?_) (failsOnly_mapM fun item member => ?_)
  · obtain ⟨_, done⟩ := each item member
    exact .of_ok done
  · obtain ⟨_, done⟩ := each item member
    exact .of_ok done

theorem exists_tabulate_of_each {count : Nat} {element : Nat → Attempt α}
    (each : ∀ index < count, ∃ value, element index = .ok value) :
    ∃ values, tabulate count element = .ok values := by
  obtain ⟨items, computed⟩ :=
    exists_mapM fun index member => each index (List.mem_range.1 member)
  exact ⟨items.toArray, map_eq_ok.2 ⟨items, computed, rfl⟩⟩

theorem exists_tabulate_with {count : Nat} {element : Nat → Attempt α} {property : Nat → α → Prop}
    (each : ∀ index < count, ∃ value, element index = .ok value ∧ property index value) :
    ∃ values, tabulate count element = .ok values ∧ values.size = count ∧
      ∀ index < count, ∃ value, values[index]? = some value ∧ property index value := by
  obtain ⟨values, computed⟩ := exists_tabulate_of_each fun index bound =>
    have ⟨value, done, _⟩ := each index bound
    ⟨value, done⟩
  obtain ⟨size, elements⟩ := tabulate_eq_ok.1 computed
  refine ⟨values, computed, size, fun index bound => ?_⟩
  obtain ⟨value, done, known⟩ := each index bound
  cases (elements index (size ▸ bound)).symm.trans done
  exact ⟨_, Array.getElem?_eq_getElem (size ▸ bound), known⟩

end Values

end Attempt

open Attempt

section Arrays

variable {α : Type} {values : Array α}

theorem unrefused_tabulate {count : Nat} {element : Nat → Attempt α}
    (each : ∀ index < count, (element index).Unrefused) : (tabulate count element).Unrefused :=
  (failsOnly_mapM fun index member => each index (List.mem_range.1 member)).map _

theorem unrefused_readAt (values : Array α) (index : Nat) : (readAt values index).Unrefused := by
  unfold readAt
  split
  · exact failsOnly_pure _
  · exact unrefused_abort

theorem unrefused_readRun (values : Array α) (start count : Nat) :
    (readRun values start count).Unrefused := by
  unfold readRun
  split
  · exact failsOnly_pure _
  · exact unrefused_abort

theorem unrefused_writeAt (values : Array α) (index : Nat) (value : α) :
    (writeAt values index value).Unrefused := by
  unfold writeAt
  split
  · exact failsOnly_pure _
  · exact unrefused_abort

theorem unrefused_nonzero (divisor : Nat) : (nonzero divisor).Unrefused := by
  unfold nonzero
  split
  · exact unrefused_abort
  · exact failsOnly_pure _

theorem unrefused_repack (fill : α) (count : Nat) (source : Nat → Nat) :
    (repack values fill count source).Unrefused := by
  unfold repack
  split
  · exact unrefused_abort
  · refine unrefused_tabulate fun index _ => ?_
    split
    · exact unrefused_readAt _ _
    · exact failsOnly_pure _

theorem unrefused_derivedOr {derived : Option α} {derive : Attempt α}
    (unrefused : derived = none → derive.Unrefused) : (derivedOr derived derive).Unrefused := by
  cases derived with
  | none => exact unrefused rfl
  | some state => exact failsOnly_pure state

end Arrays

namespace Buffer

theorem unrefused_readBit (packed : Array UInt8) (index : Nat) :
    (readBit packed index).Unrefused :=
  (unrefused_readAt _ _).bind fun _ _ => failsOnly_pure _

theorem unrefused_writeBits (packed : Array UInt8) (values : List Bool) :
    (writeBits packed values).Unrefused := by
  refine failsOnly_foldlM fun entry _ before => ?_
  split
  · unfold setBit
    split
    · exact failsOnly_pure _
    · exact unrefused_abort
  · exact failsOnly_pure _

end Buffer

namespace Quantization

theorem unrefused_affineOf (record : Quantization) (channel : Nat) :
    (record.affineOf channel).Unrefused := by
  cases record with
  | perTensor affine => exact failsOnly_pure affine
  | perChannel scales zeroPoints _ =>
      exact (unrefused_readAt _ _).bind fun _ _ =>
        (unrefused_readAt _ _).bind fun _ _ => failsOnly_pure _

variable {record : Quantization} {elementType : ElementType} {dims : List Nat}
  (checked : record.validate elementType dims = .ok ())

include checked

theorem unrefused_dequantize {stored : Array Int} {outputLength : Nat}
    (size : stored.size = volume dims) (length : outputLength = volume dims) :
    (record.dequantize elementType dims stored outputLength).Unrefused := by
  have lengths : checkLengths stored.size outputLength dims = .ok () := by
    unfold checkLengths
    rw [if_neg (by omega)]
  unfold dequantize
  refine .bind_ok (lift_eq_ok.2 lengths) (.bind_ok (lift_eq_ok.2 checked) ?_)
  exact failsOnly_mapIdxM fun _ _ _ =>
    (record.unrefused_affineOf _).bind fun _ _ => failsOnly_pure _

theorem unrefused_quantize {values : Array Single} {outputLength : Nat}
    (size : values.size = volume dims) (length : outputLength = volume dims) :
    (record.quantize elementType dims values outputLength).Unrefused := by
  have lengths : checkLengths values.size outputLength dims = .ok () := by
    unfold checkLengths
    rw [if_neg (by omega)]
  unfold quantize
  refine .bind_ok (lift_eq_ok.2 lengths) (.bind_ok (lift_eq_ok.2 checked) ?_)
  exact failsOnly_mapIdxM fun _ _ _ =>
    (record.unrefused_affineOf _).bind fun _ _ => failsOnly_pure _

end Quantization

namespace Tensor

variable {tensor : Tensor}

def HasRoom [Host] (tensor : Tensor) : Prop := tensor.count * 4 ≤ Host.allocationLimit

theorem HasRoom.allocate [Host] (room : tensor.HasRoom) (context : String) :
    Buffer.allocate tensor.count 4 context = .ok () := if_pos room

theorem hasRoom_of_allocate [Host] {context : String}
    (allocated : Buffer.allocate tensor.count 4 context = .ok ()) : tensor.HasRoom := by
  unfold Buffer.allocate at allocated
  split at allocated
  · assumption
  · cases allocated

theorem Valid.exists_toSingles [Host] (valid : tensor.Valid) (room : tensor.HasRoom) :
    ∃ values, tensor.toSingles = .ok values := by
  refine (safe_toSingles valid.sized).exists_ok ?_
  unfold toSingles
  refine .bind_ok (lift_eq_ok.2 (room.allocate _)) ?_
  cases held : tensor.buffer with
  | f32 values =>
      dsimp only
      rw [if_pos (valid.sized.singles held)]
      exact failsOnly_pure _
  | f16 values => exact failsOnly_pure _
  | bool packed =>
      exact unrefused_tabulate fun _ _ =>
        (Buffer.unrefused_readBit _ _).bind fun _ _ => failsOnly_pure _
  | i8 | u8 | i16 | i32 =>
      obtain ⟨record, recorded, checked⟩ := valid.record (by rw [elementType, held]; rfl)
      dsimp only [Buffer.integers?]
      rw [recorded]
      refine Quantization.unrefused_dequantize checked ?_ rfl
      exact valid.sized.stored (by rw [held]; rfl)

theorem Valid.exists_writeSingles (valid : tensor.Valid) {values : Array Single}
    (size : values.size = tensor.count) : ∃ written, tensor.writeSingles values = .ok written := by
  refine (safe_writeSingles valid.sized values).exists_ok ?_
  unfold writeSingles
  refine failsOnly_check (fun other => absurd size other) fun _ =>
    FailsOnly.bind ?_ fun _ _ => failsOnly_pure _
  unfold bufferOfSingles
  cases held : tensor.buffer with
  | f32 old =>
      dsimp only
      rw [if_pos ((valid.sized.singles held).trans size.symm)]
      exact failsOnly_pure _
  | f16 old => exact failsOnly_pure _
  | bool packed => exact (Buffer.unrefused_writeBits _ _).map _
  | i8 | u8 | i16 | i32 =>
      obtain ⟨record, recorded, checked⟩ := valid.record (by rw [elementType, held]; rfl)
      dsimp only [Buffer.integers?]
      rw [recorded]
      refine (Quantization.unrefused_quantize checked size ?_).bind fun stored _ => ?_
      · exact valid.sized.stored (by rw [held]; rfl)
      · split
        · exact failsOnly_pure _
        · exact unrefused_abort

end Tensor

end TensorRuntime
