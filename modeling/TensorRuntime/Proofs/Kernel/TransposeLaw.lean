import TensorRuntime.Proofs.Kernel.Gathering
import TensorRuntime.Proofs.Kernel.Permutations
import TensorRuntime.Proofs.Records

/-!
The law of transposes. An element is found under the coordinates that it had, in the order of the
permutation; transposes undo each other and compose as their permutations do. This holds for
elements of every type, packed truth values among them.
-/

namespace TensorRuntime

open Attempt

def Tensor.entryAt? (tensor : Tensor) (index : List Nat) : Option Entry :=
  tensor.buffer.entryAt? (Shape.offset index (Shape.strides tensor.dims))

/-- A call of the transpose between valid tensors of one element type and under one record. -/
structure Turns (permutation : List Nat) (input output : Tensor) : Prop where
  order : permutation.Perm (List.range input.dims.length)
  dims : output.dims = turnedDims input.dims permutation
  valid : input.Valid
  outValid : output.Valid
  sameType : output.elementType = input.elementType
  records : Quantization.sameOption input.quantization output.quantization = true

namespace Turns

variable {permutation next : List Nat} {input written output last : Tensor}
  (derived : Option Derived)

section Run

variable (turns : Turns permutation input output)

include turns

theorem count : volume output.dims = volume input.dims := by
  rw [turns.dims]
  exact volume_permuted turns.order

theorem shape : input.shape.permute? permutation = .ok (some output.shape) := by
  have low : input.shape.rank ≤ maxRank := (Tensor.valid_iff.1 turns.valid).1
  rw [Shape.permute?_of_perm low turns.order]
  exact congrArg (fun dims => Except.ok (some (Shape.mk dims))) turns.dims.symm

theorem exists_written [Host] : ∃ written,
    transposeKernel.run ⟨.transpose permutation, [input], [output], derived⟩ =
      ⟨[written], .ok ()⟩ ∧
    written.frame = output.frame ∧
    ∀ position < volume input.dims, written.buffer.entryAt? position =
      input.buffer.entryAt? (transposeSource input.dims permutation position) := by
  have inside : ∀ source ∈ (List.range (volume input.dims)).map
      (transposeSource input.dims permutation), source < volume input.dims :=
    fun source member =>
      List.mem_range.1 ((transposeSources_perm turns.order).mem_iff.1 member)
  have sized : input.buffer.byteCount =
      input.buffer.elementType.storageBytes (volume input.dims) := turns.valid.sized
  have outSized : output.buffer.byteCount =
      output.buffer.elementType.storageBytes (volume output.dims) := turns.outValid.sized
  obtain ⟨moved, gathered, reads⟩ := Buffer.exists_gather output.buffer turns.sameType
    sized (by simpa [turns.count] using outSized) inside
  refine ⟨{ output with buffer := moved }, Kernel.run_ofBody_ok ?_, ?_, ?_⟩
  · rw [transposeBody_eq derived turns.sameType turns.order turns.records, gathered]
    rfl
  · obtain ⟨elementType, bytes⟩ := frame_of_gather gathered
    exact Tensor.frame_of_buffer elementType bytes
  · intro position bound
    exact reads position _ (by simp [bound])

theorem entries_of_written (same : written.frame = output.frame)
    (reads : ∀ position < volume input.dims, written.buffer.entryAt? position =
      input.buffer.entryAt? (transposeSource input.dims permutation position))
    {index : List Nat} (within : Shape.Within index output.dims) :
    ∃ source entry, Shape.Within source input.dims ∧ turnedIndex permutation source = index ∧
      (∀ other, Shape.Within other input.dims → turnedIndex permutation other = index →
        other = source) ∧
      input.entryAt? source = some entry ∧ written.entryAt? index = some entry := by
  have bound := Shape.offset_lt_volume within
  rw [turns.count] at bound
  have positive : 0 ∉ input.dims := Shape.volume_pos.1 (Nat.zero_lt_of_lt bound)
  let place := transposeSource input.dims permutation
    (Shape.offset index (Shape.strides output.dims))
  have inside : place < volume input.dims :=
    (coordinates_transposeSource turns.order positive _).1
  have sourceWithin := Shape.within_coordinates positive place
  have turned : turnedIndex permutation (Shape.coordinates input.dims place) = index := by
    rw [turnedIndex_transposeSource turns.order positive, ← turns.dims,
      Shape.coordinates_offset within]
  obtain ⟨entry, present⟩ := Buffer.exists_entry turns.valid.sized inside
  refine ⟨Shape.coordinates input.dims place, entry, sourceWithin, turned,
    fun other otherWithin otherTurned => turnedIndex_injective turns.order otherWithin sourceWithin
      (otherTurned.trans turned.symm), ?_, ?_⟩
  · rw [Tensor.entryAt?, Shape.offset_coordinates, Nat.mod_eq_of_lt inside, present]
  · rw [Tensor.entryAt?, Tensor.dims_of_frame same, reads _ bound, present]

end Run

section Chain

theorem of_frame (after : Turns next output last) (same : written.frame = output.frame) :
    Turns next written last := by
  have dims := Tensor.dims_of_frame same
  refine ⟨dims ▸ after.order, dims ▸ after.dims, after.valid.of_frame same, after.outValid,
    after.sameType.trans (Tensor.elementType_of_frame same).symm, ?_⟩
  rw [Tensor.quantization_of_frame same]
  exact after.records

variable (turns : Turns permutation input output) (after : Turns next output last)

include turns after

theorem next_order : next.Perm (List.range permutation.length) := by
  have order := after.order
  rwa [turns.dims, turnedDims, List.length_map] at order

theorem compose : Turns (composedAxes permutation next) input last where
  order := composedAxes_perm turns.order (turns.next_order after)
  dims := by rw [after.dims, turns.dims, turnedDims_composedAxes (turns.next_order after)]
  valid := turns.valid
  outValid := after.outValid
  sameType := after.sameType.trans turns.sameType
  records := by
    have same := Quantization.eq_of_sameOption turns.valid.usable turns.outValid.usable
      turns.records
    rw [same]
    exact after.records

theorem run_compose [Host] (same : written.frame = output.frame)
    (reads : ∀ position < volume input.dims, written.buffer.entryAt? position =
      input.buffer.entryAt? (transposeSource input.dims permutation position)) :
    transposeKernel.run ⟨.transpose next, [written], [last], derived⟩ =
      transposeKernel.run
        ⟨.transpose (composedAxes permutation next), [input], [last], derived⟩ := by
  have later := after.of_frame same
  have composed := turns.compose after
  have dims : written.dims = turnedDims input.dims permutation :=
    (Tensor.dims_of_frame same).trans turns.dims
  have next_order := turns.next_order after
  have volumes : volume written.dims = volume input.dims := by
    rw [dims]
    exact volume_permuted turns.order
  have elementType : input.elementType = written.elementType :=
    turns.sameType.symm.trans (Tensor.elementType_of_frame same).symm
  have gathered : written.buffer.gather last.buffer
      ((List.range (volume written.dims)).map (transposeSource written.dims next)) =
      input.buffer.gather last.buffer ((List.range (volume input.dims)).map
        (transposeSource input.dims (composedAxes permutation next))) := by
    refine Buffer.gather_congr elementType ?_
    rw [volumes, List.map_map, List.map_map]
    refine List.map_congr_left fun position member => ?_
    have positive : 0 ∉ input.dims :=
      Shape.volume_pos.1 (Nat.zero_lt_of_lt (List.mem_range.1 member))
    have inside : transposeSource written.dims next position < volume input.dims := by
      rw [← volumes]
      exact (coordinates_transposeSource later.order
        (dims ▸ permuted_positive turns.order positive) position).1
    rw [Function.comp_apply, Function.comp_apply, reads _ inside, dims,
      transposeSource_composedAxes turns.order next_order positive]
  have bodies : transposeBody ⟨.transpose next, [written], [last], derived⟩ =
      transposeBody ⟨.transpose (composedAxes permutation next), [input], [last], derived⟩ := by
    rw [transposeBody_eq derived later.sameType later.order later.records, gathered,
      transposeBody_eq derived composed.sameType composed.order composed.records]
  unfold transposeKernel Kernel.ofBody
  dsimp only
  rw [bodies]

end Chain

theorem inverse (turns : Turns permutation input output) {back : Tensor} (valid : back.Valid)
    (dims : back.dims = input.dims) (sameType : back.elementType = input.elementType)
    (records : Quantization.sameOption output.quantization back.quantization = true) :
    Turns (inverseAxes permutation) output back where
  order := by
    have extents : output.dims.length = permutation.length := by rw [turns.dims, List.length_map]
    rw [extents]
    exact inverseAxes_perm turns.order
  dims := by
    rw [turns.dims, turnedDims_composedAxes (inverseAxes_perm turns.order),
      composedAxes_inverseAxes turns.order, turnedDims, map_range_getD, dims]
  valid := turns.outValid
  outValid := valid
  sameType := sameType.trans turns.sameType.symm
  records := records

theorem exists_restored [Host] (turns : Turns permutation input output)
    (after : Turns (inverseAxes permutation) output last) (same : written.frame = output.frame)
    (reads : ∀ position < volume input.dims, written.buffer.entryAt? position =
      input.buffer.entryAt? (transposeSource input.dims permutation position)) :
    ∃ restored,
      transposeKernel.run ⟨.transpose (inverseAxes permutation), [written], [last], derived⟩ =
        ⟨[restored], .ok ()⟩ ∧
      restored.dims = input.dims ∧
      ∀ index, Shape.Within index input.dims → restored.entryAt? index = input.entryAt? index := by
  have composed := turns.compose after
  obtain ⟨restored, ran, frame, restores⟩ := composed.exists_written derived
  rw [composedAxes_inverseAxes turns.order] at composed ran restores
  have dims : restored.dims = input.dims :=
    (Tensor.dims_of_frame frame).trans (composed.dims.trans (map_range_getD input.dims 1))
  refine ⟨restored, ?_, dims, fun index within => ?_⟩
  · rw [turns.run_compose derived after same reads, composedAxes_inverseAxes turns.order]
    exact ran
  · have bound := Shape.offset_lt_volume within
    have positive : 0 ∉ input.dims := Shape.volume_pos.1 (Nat.zero_lt_of_lt bound)
    rw [Tensor.entryAt?, dims, restores _ bound, transposeSource_range positive bound]
    rfl

end Turns

/-- The law of transposes, for every element type, shape and permutation. The call is accepted and
reads every position once; the element under some coordinates of the result is the one whose
coordinates, in the order of the permutation, are these; the inverse permutation restores every
element; and a further transpose writes what the composed permutation writes at once. -/
theorem transposes_compose [Host] {permutation : List Nat} {input output : Tensor}
    (turns : Turns permutation input output) (derived : Option Derived) :
    input.shape.permute? permutation = .ok (some output.shape) ∧
    (∃ sources, transposeSources input.dims permutation = .ok sources ∧
      sources.Perm (List.range input.count)) ∧
    ∃ written, transposeKernel.run ⟨.transpose permutation, [input], [output], derived⟩ =
        ⟨[written], .ok ()⟩ ∧
      written.frame = output.frame ∧
      (∀ index, Shape.Within index output.dims → ∃ source entry,
        Shape.Within source input.dims ∧ turnedIndex permutation source = index ∧
        (∀ other, Shape.Within other input.dims → turnedIndex permutation other = index →
          other = source) ∧
        input.entryAt? source = some entry ∧ written.entryAt? index = some entry) ∧
      (∀ back : Tensor, back.Valid → back.dims = input.dims →
        back.elementType = input.elementType →
        Quantization.sameOption output.quantization back.quantization = true → ∃ restored,
        transposeKernel.run
            ⟨.transpose (inverseAxes permutation), [written], [back], derived⟩ =
          ⟨[restored], .ok ()⟩ ∧
        restored.dims = input.dims ∧ ∀ index, Shape.Within index input.dims →
          restored.entryAt? index = input.entryAt? index) ∧
      ∀ next last, Turns next written last →
        Turns (composedAxes permutation next) input last ∧
        transposeKernel.run ⟨.transpose next, [written], [last], derived⟩ =
          transposeKernel.run
            ⟨.transpose (composedAxes permutation next), [input], [last], derived⟩ := by
  obtain ⟨written, ran, same, reads⟩ := turns.exists_written derived
  refine ⟨turns.shape, ⟨_, transposeSources_eq turns.order, transposeSources_perm turns.order⟩,
    written, ran, same, fun index within => turns.entries_of_written same reads within,
    fun back valid dims sameType records => ?_, fun next last after => ?_⟩
  · exact turns.exists_restored derived (turns.inverse valid dims sameType records) same reads
  · have own := after.of_frame same.symm
    exact ⟨turns.compose own, turns.run_compose derived own same reads⟩

def markedBits : Tensor := ⟨"", ⟨[2, 3, 2]⟩, .any, none, .external, .bool #[0x20, 0x00]⟩

def turnedBits : Tensor := ⟨"", ⟨[2, 2, 3]⟩, .any, none, .external, .bool #[0xFF, 0xFF]⟩

theorem markedBits_turns : Turns [2, 0, 1] markedBits turnedBits :=
  ⟨by decide, rfl, rfl, rfl, rfl, rfl⟩

theorem markedBits_transpose : Turns [2, 0, 1] markedBits turnedBits ∧ ∃ written restored,
    transposeKernel.run ⟨.transpose [2, 0, 1], [markedBits], [turnedBits], none⟩ =
      ⟨[written], .ok ()⟩ ∧
    written.entryAt? [1, 0, 2] = some (.truth true) ∧
    written.entryAt? [0, 0, 0] = some (.truth false) ∧
    transposeKernel.run ⟨.transpose [1, 2, 0], [written], [markedBits], none⟩ =
      ⟨[restored], .ok ()⟩ ∧
    restored.entryAt? [0, 2, 1] = some (.truth true) := by
  obtain ⟨_, _, written, ran, _, entries, back, _⟩ :=
    transposes_compose markedBits_turns none
  obtain ⟨restored, reran, _, restores⟩ := back markedBits rfl rfl rfl rfl
  have marked : Shape.Within [0, 2, 1] markedBits.dims := by decide
  have first : Shape.Within [0, 0, 0] markedBits.dims := by decide
  obtain ⟨source, entry, _, _, only, present, moved⟩ := entries [1, 0, 2] (by decide)
  cases only [0, 2, 1] marked rfl
  obtain ⟨source', entry', _, _, only', present', moved'⟩ := entries [0, 0, 0] (by decide)
  cases only' [0, 0, 0] first rfl
  have set : markedBits.entryAt? [0, 2, 1] = some (.truth true) := rfl
  have clear : markedBits.entryAt? [0, 0, 0] = some (.truth false) := rfl
  exact ⟨markedBits_turns, written, restored, ran, moved.trans (present.symm.trans set),
    moved'.trans (present'.symm.trans clear), reran, (restores _ marked).trans set⟩

end TensorRuntime
