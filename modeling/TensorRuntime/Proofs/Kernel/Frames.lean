import TensorRuntime.Proofs.Frame
import TensorRuntime.Proofs.Registration

/-!
Kernels keep frames: a run writes into the buffer of its output and leaves the rest
of every tensor as it was.
-/

namespace TensorRuntime

open Attempt

def Call.Sized (call : Call) : Prop := ∀ tensor ∈ call.inputs ++ call.outputs, tensor.Sized

def Call.Fits (call : Call) (result : Tensor) : Prop :=
  ∃ first, call.outputs[0]? = some first ∧ result.frame = first.frame

/-- A run leaves the frames of its outputs alone, however it ends. -/
def Kernel.KeepsFrames (kernel : Kernel) : Prop :=
  ∀ call : Call, call.Sized →
    (kernel.run call).outputs.map Tensor.frame = call.outputs.map Tensor.frame

/-- A run changes nothing of its outputs but their data, however it ends and whatever it is
given. -/
def Kernel.WritesOnlyData (kernel : Kernel) : Prop :=
  ∀ call : Call,
    (kernel.run call).outputs.map Tensor.withoutData = call.outputs.map Tensor.withoutData

theorem Kernel.run_ofBody_keeps {name : String} {layouts : List Layout} {entry : String}
    {precompute? : Option Precompute} {body : Call → Attempt Tensor} {α : Type} {read : Tensor → α}
    {call : Call} (keeps : ∀ result, body call = .ok result →
      ∃ first, call.outputs[0]? = some first ∧ read result = read first) :
    ((ofBody name layouts entry precompute? body).run call).outputs.map read =
      call.outputs.map read := by
  cases done : body call with
  | error fault => rw [run_ofBody_error done]
  | ok result =>
      rw [run_ofBody_ok done]
      obtain ⟨first, found, same⟩ := keeps result done
      cases outputs : call.outputs with
      | nil => rfl
      | cons output rest =>
          rw [outputs] at found
          cases found
          simp [same]

theorem Kernel.body_of_run {name : String} {layouts : List Layout} {entry : String}
    {precompute? : Option Precompute} {body : Call → Attempt Tensor} {call : Call}
    (done : ((ofBody name layouts entry precompute? body).run call).outcome = .ok ()) :
    ∃ written, body call = .ok written := by
  cases ran : body call with
  | error fault =>
      rw [run_ofBody_error ran] at done
      cases done
  | ok written => exact ⟨written, rfl⟩

theorem Kernel.keepsFrames_ofBody {name : String} {layouts : List Layout} {entry : String}
    {precompute? : Option Precompute} {body : Call → Attempt Tensor}
    (fits : ∀ call result, body call = .ok result → call.Fits result) :
    (ofBody name layouts entry precompute? body).KeepsFrames ∧
      (ofBody name layouts entry precompute? body).WritesOnlyData := by
  refine ⟨fun call _ => run_ofBody_keeps (fits call), fun call => run_ofBody_keeps ?_⟩
  intro result done
  obtain ⟨first, found, frame⟩ := fits call result done
  exact ⟨first, found, Tensor.withoutData_of_frame frame⟩

namespace Call

variable {call : Call} {routine : String}

theorem input_eq_ok {place : Nat} {tensor : Tensor} :
    call.input place routine = .ok tensor ↔ call.inputs[place]? = some tensor := by
  unfold input
  cases call.inputs[place]? <;> simp

theorem output_eq_ok {tensor : Tensor} :
    call.output routine = .ok tensor ↔ call.outputs[0]? = some tensor := by
  unfold output
  cases call.outputs[0]? <;> simp

theorem singleOutput_eq_ok {tensor : Tensor} {old : Array Single} :
    call.singleOutput routine = .ok (tensor, old) ↔
      call.outputs[0]? = some tensor ∧ tensor.buffer = .f32 old := by
  unfold singleOutput
  rw [bind_eq_ok]
  constructor
  · rintro ⟨output, found, held⟩
    split at held
    · rw [pure_eq_ok] at held
      cases held
      exact ⟨output_eq_ok.1 found, by assumption⟩
    · cases held
  · rintro ⟨found, held⟩
    refine ⟨tensor, output_eq_ok.2 found, ?_⟩
    rw [held]
    rfl

theorem fits_withSingles {output : Tensor} {old values : Array Single}
    (written : call.singleOutput routine = .ok (output, old)) (size : values.size = old.size) :
    call.Fits (output.withSingles values) := by
  obtain ⟨found, held⟩ := singleOutput_eq_ok.1 written
  exact ⟨output, found, Tensor.frame_of_withSingles held size⟩

end Call

section Scalar

variable {call : Call} {result : Tensor}

theorem convBody_fits (done : convBody call = .ok result) : call.Fits result := by
  unfold convBody at done
  split at done
  · simp only [bind_eq_ok, lift_eq_ok, map_eq_ok] at done
    obtain ⟨_, _, _, _, _, _, _, _, _, _, _, _, _, _, _, _, ⟨output, old⟩, written, _, _, values,
      computed, rfl⟩ := done
    exact Call.fits_withSingles written (size_of_tabulate computed)
  · cases done

theorem poolBody_fits (done : poolBody call = .ok result) : call.Fits result := by
  unfold poolBody at done
  split at done
  · simp only [bind_eq_ok, lift_eq_ok, map_eq_ok] at done
    obtain ⟨_, _, _, _, _, _, _, _, _, _, ⟨output, old⟩, written, values, computed, rfl⟩ := done
    exact Call.fits_withSingles written (size_of_tabulate computed)
  · cases done

theorem batchNormBody_fits (done : batchNormBody call = .ok result) : call.Fits result := by
  unfold batchNormBody at done
  simp only [bind_eq_ok, lift_eq_ok, guard_eq_ok, map_eq_ok] at done
  obtain ⟨_, _, _, _, _, _, _, _, _, ⟨output, old⟩, written, values, computed, rfl⟩ := done
  exact Call.fits_withSingles written (size_of_tabulate computed)

theorem size_of_softmaxInto {values old written : Array Single} {dims : List Nat} {axis : Nat}
    (done : softmaxInto values dims axis old = .ok written) : written.size = old.size := by
  unfold softmaxInto at done
  split at done
  · cases done
  · refine foldlM_keeps (fun current : Array Single => current.size = old.size) rfl ?_ done
    intro before places after size step
    rw [bind_eq_ok] at step
    obtain ⟨line, _, step⟩ := step
    refine foldlM_keeps (fun current : Array Single => current.size = old.size) size ?_ step
    intro earlier entry later size step
    rw [size_of_writeAt step, size]

theorem softmaxBody_fits (done : softmaxBody call = .ok result) : call.Fits result := by
  unfold softmaxBody at done
  split at done
  · simp only [bind_eq_ok, lift_eq_ok, guard_eq_ok, map_eq_ok] at done
    obtain ⟨_, _, _, ⟨output, old⟩, written, _, _, values, computed, rfl⟩ := done
    exact Call.fits_withSingles written (size_of_softmaxInto computed)
  · cases done

theorem size_of_padInto {values padded : Array Single} {dims outDims : List Nat}
    {pads : List (Nat × Nat)} {value : Single} {outputSize : Nat}
    (done : padInto values dims pads value outputSize outDims = .ok padded) :
    padded.size = outputSize := by
  unfold padInto at done
  dsimp only at done
  rw [assert_eq_ok] at done
  refine foldlM_keeps (fun current : Array Single => current.size = outputSize) (by simp) ?_ done.2
  intro before entry after size step
  rw [assert_eq_ok, bind_eq_ok] at step
  obtain ⟨_, place, _, step⟩ := step
  rw [size_of_writeAt step, size]

theorem padBody_fits (done : padBody call = .ok result) : call.Fits result := by
  unfold padBody at done
  split at done
  · simp only [bind_eq_ok, lift_eq_ok, map_eq_ok] at done
    obtain ⟨_, _, _, _, _, _, ⟨output, old⟩, written, values, computed, rfl⟩ := done
    exact Call.fits_withSingles written (size_of_padInto computed)
  · cases done

theorem size_of_reduceInto {params : ReduceParams} {values reduced : Array Single}
    {dims : List Nat} {outputSize : Nat}
    (done : reduceInto params values dims outputSize = .ok reduced) :
    reduced.size = outputSize := by
  unfold reduceInto at done
  dsimp only at done
  rw [assert_eq_ok, bind_eq_ok] at done
  obtain ⟨_, totals, summed, done⟩ := done
  have size : totals.size = outputSize := by
    refine foldlM_keeps (fun current : Array Single => current.size = outputSize) (by simp) ?_
      summed
    intro before entry after size step
    simp only [bind_eq_ok] at step
    obtain ⟨place, _, total, _, step⟩ := step
    rw [size_of_writeAt step, size]
  split at done
  · rw [pure_eq_ok] at done
    rw [← done, ← size]
    simp
  · rw [pure_eq_ok] at done
    rw [← done, size]

theorem reduceBody_fits (done : reduceBody call = .ok result) : call.Fits result := by
  unfold reduceBody at done
  split at done
  · simp only [bind_eq_ok, lift_eq_ok, map_eq_ok] at done
    obtain ⟨_, _, ⟨output, old⟩, written, _, _, values, computed, rfl⟩ := done
    exact Call.fits_withSingles written (size_of_reduceInto computed)
  · cases done

theorem size_of_accumulateProductBy {add : Nat → Single → Single → Single → Single}
    {first second total sums : Array Single} {rows columns inner : Nat}
    (done : accumulateProductBy add first second total rows columns inner = .ok sums) :
    sums.size = total.size := by
  unfold accumulateProductBy at done
  refine foldlM_keeps (fun current : Array Single => current.size = total.size) rfl ?_ done
  intro before entry after size step
  simp only [bind_eq_ok] at step
  obtain ⟨_, _, _, _, _, _, step⟩ := step
  rw [size_of_writeAt step, size]

theorem size_of_accumulateProductChecked [Host] {first second total sums : Array Single}
    {rows columns inner : Nat}
    (done : accumulateProductChecked first second total rows columns inner = .ok sums) :
    sums.size = total.size := by
  unfold accumulateProductChecked at done
  split at done
  · split at done
    · cases done
    · exact size_of_accumulateProductBy done
  · exact size_of_accumulateProductBy done

theorem fullyConnectedBody_fits {routine : String} {accumulate : Accumulate}
    (sizes : ∀ {first second total sums rows columns inner},
      accumulate first second total rows columns inner = .ok sums → sums.size = total.size)
    (done : fullyConnectedBody routine accumulate call = .ok result) : call.Fits result := by
  unfold fullyConnectedBody at done
  split at done
  · simp only [bind_eq_ok, lift_eq_ok] at done
    obtain ⟨_, _, _, _, _, _, _, _, done⟩ := done
    split at done
    · cases done
    · simp only [bind_eq_ok, lift_eq_ok, map_eq_ok] at done
      obtain ⟨_, _, ⟨output, old⟩, written, values, computed, rfl⟩ := done
      refine Call.fits_withSingles written ?_
      unfold fullyConnectedInto startRows at computed
      simp only [bind_eq_ok, pure_eq_ok] at computed
      obtain ⟨start, ⟨_, _, started⟩, sums, accumulated, rfl⟩ := computed
      simp [sizes accumulated, size_of_tabulate started]
  · cases done

theorem size_of_combineInto {op : BinaryOp} {activation : FusedActivation}
    {first second old combined : Array Single} {firstDims secondDims outDims : List Nat}
    (done : combineInto op activation first firstDims second secondDims old outDims =
      .ok combined) : combined.size = old.size := by
  unfold combineInto at done
  split at done
  · rw [pure_eq_ok] at done
    rw [← done]
    simp [combineAligned]
  · unfold combineBroadcast at done
    simp only [bind_eq_ok] at done
    obtain ⟨_, _, _, _, computed⟩ := done
    exact size_of_tabulate computed

theorem binaryBody_fits (done : binaryBody call = .ok result) : call.Fits result := by
  unfold binaryBody at done
  split at done
  · simp only [bind_eq_ok, lift_eq_ok, map_eq_ok] at done
    obtain ⟨_, _, _, _, ⟨output, old⟩, written, _, _, _, _, values, computed, rfl⟩ := done
    exact Call.fits_withSingles written (size_of_combineInto computed)
  · cases done

theorem halfBinaryBody_fits [Host]
    (done : halfBinaryBody call = .ok result) : call.Fits result := by
  unfold halfBinaryBody at done
  split at done
  · simp only [bind_eq_ok, lift_eq_ok, Call.output_eq_ok] at done
    obtain ⟨_, _, _, _, _, _, _, _, output, found, _, _, _, _, _, _, _, _, written⟩ := done
    exact ⟨output, found, Tensor.frame_of_writeSingles written⟩
  · cases done

theorem activationBody_fits (done : activationBody call = .ok result) : call.Fits result := by
  unfold activationBody at done
  split at done
  · simp only [bind_eq_ok, lift_eq_ok, pure_eq_ok] at done
    obtain ⟨_, _, _, _, ⟨output, old⟩, written, rfl⟩ := done
    exact Call.fits_withSingles written (by simp [mapInto])
  · cases done

theorem halfActivationBody_fits [Host] (done : halfActivationBody call = .ok result) :
    call.Fits result := by
  unfold halfActivationBody at done
  split at done
  · simp only [bind_eq_ok, lift_eq_ok, Call.output_eq_ok] at done
    obtain ⟨_, _, _, _, output, found, _, _, _, _, written⟩ := done
    exact ⟨output, found, Tensor.frame_of_writeSingles written⟩
  · cases done

theorem reshapeBody_fits [Host] (sized : call.Sized) (done : reshapeBody call = .ok result) :
    call.Fits result := by
  unfold reshapeBody at done
  split at done
  · simp only [bind_eq_ok, lift_eq_ok, Call.input_eq_ok, Call.output_eq_ok, guard_eq_ok] at done
    obtain ⟨input, given, output, found, _, sameType, counts, done⟩ := done
    refine ⟨output, found, ?_⟩
    split at done
    · rw [pure_eq_ok] at done
      rw [← done]
      have inputSized := sized input (List.mem_append_left _ (List.mem_of_getElem? given))
      have outputSized := sized output (List.mem_append_right _ (List.mem_of_getElem? found))
      have types : input.elementType = output.elementType := by
        unfold sameElementType at sameType
        split at sameType
        · assumption
        · cases sameType
      apply Tensor.frame_of_buffer types
      rw [inputSized, outputSized, types, Classical.not_not.1 counts]
    · rw [bind_eq_ok] at done
      obtain ⟨_, _, written⟩ := done
      exact Tensor.frame_of_writeSingles written
  · cases done

theorem reshapeBody_withoutData [Host] (done : reshapeBody call = .ok result) :
    ∃ first, call.outputs[0]? = some first ∧ result.withoutData = first.withoutData := by
  unfold reshapeBody at done
  split at done
  · simp only [bind_eq_ok, lift_eq_ok, Call.input_eq_ok, Call.output_eq_ok, guard_eq_ok] at done
    obtain ⟨input, _, output, found, _, _, _, done⟩ := done
    refine ⟨output, found, ?_⟩
    split at done
    · rw [pure_eq_ok] at done
      rw [← done]
      rfl
    · rw [bind_eq_ok] at done
      obtain ⟨_, _, written⟩ := done
      exact Tensor.withoutData_of_frame (Tensor.frame_of_writeSingles written)
  · cases done

theorem size_of_gatherInto {α : Type} {values old moved : Array α} {sources : List Nat}
    (done : gatherInto values old sources = .ok moved) : moved.size = old.size := by
  unfold gatherInto at done
  simp only [bind_eq_ok, pure_eq_ok, mapM_eq_ok] at done
  obtain ⟨found, read, rfl⟩ := done
  have length : found.length = (sources.take old.size).length := by
    simpa using (congrArg List.length read).symm
  rw [List.length_take] at length
  simp
  omega

theorem frame_of_gather {values old moved : Buffer} {sources : List Nat}
    (done : values.gather old sources = .ok moved) :
    moved.elementType = old.elementType ∧ moved.byteCount = old.byteCount := by
  unfold Buffer.gather at done
  split at done
  case h_7 =>
      rw [map_eq_ok] at done
      obtain ⟨bits, done, rfl⟩ := done
      unfold gatherBits at done
      rw [bind_eq_ok] at done
      obtain ⟨_, _, written⟩ := done
      exact ⟨rfl, Buffer.size_of_writeBits written⟩
  case h_8 => cases done
  all_goals
    rw [map_eq_ok] at done
    obtain ⟨gathered, done, rfl⟩ := done
    simp [Buffer.elementType, Buffer.byteCount, size_of_gatherInto done]

theorem transposeBody_fits [Host] (done : transposeBody call = .ok result) : call.Fits result := by
  unfold transposeBody at done
  split at done
  · simp only [bind_eq_ok, lift_eq_ok, Call.output_eq_ok] at done
    obtain ⟨_, _, output, found, _, _, sources, _, done⟩ := done
    refine ⟨output, found, ?_⟩
    split at done
    · simp only [bind_eq_ok, pure_eq_ok] at done
      obtain ⟨buffer, gathered, rfl⟩ := done
      exact Tensor.frame_of_buffer (frame_of_gather gathered).1 (frame_of_gather gathered).2
    · simp only [bind_eq_ok] at done
      obtain ⟨_, _, _, _, written⟩ := done
      exact Tensor.frame_of_writeSingles written
  · cases done

end Scalar

section StoredIntegers

variable {call : Call} {result : Tensor}

theorem storedSlots_eq_ok {output : Tensor} {elementType : ElementType} {routine : String}
    {slots : Nat} (found : output.storedSlots elementType routine = .ok slots) :
    ∃ old, output.buffer.integers? = some old ∧ slots = old.size := by
  unfold Tensor.storedSlots at found
  split at found
  · rename_i old _ held
    cases found
    exact ⟨old, held, rfl⟩
  · cases found

theorem storedBinaryBody_fits {elementType : ElementType}
    (done : storedBinaryBody elementType call = .ok result) : call.Fits result := by
  unfold storedBinaryBody at done
  split at done
  · simp only [bind_eq_ok, lift_eq_ok, Call.output_eq_ok] at done
    obtain ⟨_, _, _, _, _, _, _, _, output, found, _, _, _, _, _, _, _, _, _, _, slots, counted,
      stored, computed, written⟩ := done
    obtain ⟨old, held, rfl⟩ := storedSlots_eq_ok counted
    exact ⟨output, found, Tensor.frame_of_withStored held (size_of_tabulate computed) written⟩
  · cases done

theorem storedActivationBody_fits {elementType : ElementType}
    (done : storedActivationBody elementType call = .ok result) : call.Fits result := by
  unfold storedActivationBody at done
  split at done
  · simp only [bind_eq_ok, lift_eq_ok, Call.output_eq_ok] at done
    obtain ⟨_, _, _, _, output, found, _, _, _, _, _, counted, written⟩ := done
    change Function.const Nat PUnit.unit <$> (liftM (output.storedSlots elementType
      storedActivationRoutine) : Attempt Nat) = _ at counted
    simp only [map_eq_ok, lift_eq_ok] at counted
    obtain ⟨slots, counted, _⟩ := counted
    obtain ⟨old, held, _⟩ := storedSlots_eq_ok counted
    refine ⟨output, found, Tensor.frame_of_withStored held ?_ written⟩
    simp [held]
  · cases done

theorem storedPoolBody_fits {elementType : ElementType}
    (done : storedPoolBody elementType call = .ok result) : call.Fits result := by
  unfold storedPoolBody at done
  split at done
  · simp only [bind_eq_ok, lift_eq_ok, Call.output_eq_ok, guard_eq_ok] at done
    obtain ⟨_, _, _, _, _, _, _, output, found, _, _, _, _, _, _, slots, counted, stored, computed,
      written⟩ := done
    obtain ⟨old, held, rfl⟩ := storedSlots_eq_ok counted
    exact ⟨output, found, Tensor.frame_of_withStored held (size_of_tabulate computed) written⟩
  · cases done

theorem storedConvBody_fits [Host]
    (done : storedConvBody call = .ok result) : call.Fits result := by
  unfold storedConvBody at done
  split at done
  · simp only [bind_eq_ok, lift_eq_ok] at done
    obtain ⟨_, _, _, _, _, _, _, _, _, _, _, _, done⟩ := done
    split at done
    · simp only [bind_eq_ok, lift_eq_ok, Call.output_eq_ok] at done
      obtain ⟨_, _, _, _, output, found, _, _, _, _, _, _, slots, counted, stored, computed,
        written⟩ := done
      obtain ⟨old, held, rfl⟩ := storedSlots_eq_ok counted
      exact ⟨output, found, Tensor.frame_of_withStored held (size_of_tabulate computed) written⟩
    · cases done
  · cases done

end StoredIntegers

section Accelerator

variable {staged : StagedWeights} {call : Call} {result : Tensor}

theorem signedBytes_eq_ok {output : Tensor} {refusal : Error} {old : Array Int}
    (found : output.signedBytes refusal = .ok old) : output.buffer.integers? = some old := by
  unfold Tensor.signedBytes at found
  split at found
  · rename_i values held
    cases found
    rw [held]
    rfl
  · cases found

theorem elementType_of_signedBytes {output : Tensor} {refusal : Error} {old : Array Int}
    (found : output.signedBytes refusal = .ok old) : output.elementType = .i8 := by
  unfold Tensor.signedBytes at found
  split at found
  · rename_i values held
    rw [Tensor.elementType, held]
    rfl
  · cases found

theorem acceleratorConvBody_fits (done : acceleratorConvBody staged call = .ok result) :
    call.Fits result := by
  unfold acceleratorConvBody at done
  split at done
  · simp only [bind_eq_ok, lift_eq_ok, Call.output_eq_ok, guard_eq_ok] at done
    obtain ⟨_, _, _, _, _, _, _, _, _, output, found, _, _, _, _, _, _, old, counted, _, _, stored,
      computed, written⟩ := done
    exact ⟨output, found, Tensor.frame_of_withStored (signedBytes_eq_ok counted)
      (size_of_tabulate computed) written⟩
  · cases done

theorem acceleratorFullyConnectedBody_fits
    (done : acceleratorFullyConnectedBody staged call = .ok result) : call.Fits result := by
  unfold acceleratorFullyConnectedBody at done
  split at done
  · simp only [bind_eq_ok, lift_eq_ok, Call.output_eq_ok] at done
    obtain ⟨_, _, _, _, _, _, output, found, _, _, _, _, old, counted, _, _, stored, computed,
      written⟩ := done
    exact ⟨output, found, Tensor.frame_of_withStored (signedBytes_eq_ok counted)
      (size_of_tabulate computed) written⟩
  · cases done

theorem withStaged_fits {routine : String} {body : StagedWeights → Call → Attempt Tensor}
    (fits : ∀ staged, body staged call = .ok result → call.Fits result)
    (done : withStaged routine body call = .ok result) : call.Fits result := by
  unfold withStaged at done
  split at done
  · exact fits _ done
  · cases done

end Accelerator

section Lanes

variable {lanes : Nat} {call : Call} {result : Tensor}

theorem laneBinaryBody_fits (done : laneBinaryBody lanes call = .ok result) :
    call.Fits result := by
  unfold laneBinaryBody at done
  split at done
  · simp only [bind_eq_ok, lift_eq_ok, map_eq_ok] at done
    obtain ⟨_, _, _, _, _, _, _, _, _, _, ⟨output, old⟩, written, values, computed, rfl⟩ := done
    refine Call.fits_withSingles written ?_
    split at computed
    · exact size_of_tabulate computed
    · exact size_of_combineInto computed
  · cases done

theorem laneActivationBody_fits (done : laneActivationBody lanes call = .ok result) :
    call.Fits result := by
  unfold laneActivationBody at done
  split at done
  · simp only [bind_eq_ok, lift_eq_ok, map_eq_ok] at done
    obtain ⟨_, _, _, _, ⟨output, old⟩, written, values, computed, rfl⟩ := done
    exact Call.fits_withSingles written (size_of_tabulate computed)
  · cases done

theorem size_of_updateRow {row updated : Row} {others : List (Array Single)}
    {combine : Single → List Single → Single}
    (done : updateRow lanes row others combine = .ok updated) : updated.size = row.size :=
  size_of_tabulate done

theorem size_of_startRow {bias : Option (Array Single)} {size : Nat} {row : Row}
    (done : startRow bias size = .ok row) : row.size = size := by
  unfold startRow at done
  split at done
  · split at done
    · rw [pure_eq_ok] at done
      rw [← done]
      assumption
    · cases done
  · rw [pure_eq_ok] at done
    rw [← done]
    simp

theorem size_of_concat (rows : List Row) (start : Array Single) :
    (rows.foldl (· ++ ·) start).size = start.size + (rows.map Array.size).sum := by
  induction rows generalizing start with
  | nil => simp
  | cons row rest ih =>
      rw [List.foldl_cons, ih]
      simp
      omega

theorem sum_rows (width size : Nat) (wide : 0 < width) :
    ((List.range ((size + width - 1) / width)).map fun row =>
      min width (size - row * width)).sum = size := by
  have partialSum : ∀ count, count ≤ (size + width - 1) / width →
      ((List.range count).map fun row => min width (size - row * width)).sum =
        min size (count * width) := by
    intro count
    induction count with
    | zero => simp
    | succ count ih =>
        intro bound
        rw [List.range_succ, List.map_append, List.sum_append, ih (by omega)]
        simp only [List.map_cons, List.map_nil, List.sum_cons, List.sum_nil, Nat.add_one_mul]
        omega
  rw [partialSum _ (Nat.le_refl _)]
  have covered := Nat.div_add_mod (size + width - 1) width
  have rest := Nat.mod_lt (size + width - 1) wide
  rw [Nat.mul_comm] at covered
  omega

theorem size_of_tabulateRows {width : Nat} {image : ImageDims} {old written : Array Single}
    {rowAt : Nat → Nat → Nat → Nat → Attempt Row}
    (sizes : ∀ {size batch row column values},
      rowAt size batch row column = .ok values → values.size = size)
    (done : tabulateRows width image old rowAt = .ok written) : written.size = old.size := by
  unfold tabulateRows at done
  simp only [bind_eq_ok, pure_eq_ok, mapM_eq_ok] at done
  obtain ⟨_, positive, rows, computed, rfl⟩ := done
  have wide : 0 < width := by
    unfold nonzero at positive
    split at positive
    · cases positive
    · omega
  have rowSizes : rows.map Array.size =
      (List.range ((old.size + width - 1) / width)).map fun row =>
        min width (old.size - row * width) := by
    apply List.ext_getElem
    · simpa using (congrArg List.length computed).symm
    · intro place bound inside
      have row := congrArg (fun items => items[place]?) computed
      simp only [List.length_map] at bound
      simp only [List.length_map, List.length_range] at inside
      simp only [List.getElem?_map, List.getElem?_range inside, List.getElem?_eq_getElem bound,
        Option.map_some, Option.some.injEq, bind_eq_ok] at row
      obtain ⟨_, _, _, _, row⟩ := row
      simpa using sizes row
  rw [size_of_concat, rowSizes, sum_rows _ _ wide]
  simp

theorem size_of_laneConvRow {params : ConvParams} {values : Array Single} {image : ImageDims}
    {weights : LaneConvWeights} {bias : Option (Array Single)} {size batch outRow outColumn : Nat}
    {row : Row}
    (done : laneConvRow lanes params values image weights bias size batch outRow outColumn =
      .ok row) : row.size = size := by
  unfold laneConvRow at done
  simp only [bind_eq_ok, pure_eq_ok] at done
  obtain ⟨start, started, sums, summed, rfl⟩ := done
  have kept : sums.size = size := by
    refine foldlM_keeps (fun current : Row => current.size = size) (size_of_startRow started) ?_
      summed
    intro before tap after sized step
    simp only [bind_eq_ok] at step
    obtain ⟨inputs, _, step⟩ := step
    refine foldlM_keeps (fun current : Row => current.size = size) sized ?_ step
    intro earlier entry later sized step
    simp only [bind_eq_ok] at step
    obtain ⟨run, _, step⟩ := step
    rw [size_of_updateRow step, sized]
  simpa using kept

theorem laneConvBody_fits (done : laneConvBody lanes call = .ok result) : call.Fits result := by
  unfold laneConvBody at done
  split at done
  · simp only [bind_eq_ok, lift_eq_ok, map_eq_ok, guard_eq_ok] at done
    obtain ⟨_, _, _, _, _, _, _, _, _, _, _, _, _, _, _, _, _, ⟨output, old⟩, written, values,
      computed, rfl⟩ := done
    exact Call.fits_withSingles written (size_of_tabulateRows size_of_laneConvRow computed)
  · cases done

theorem size_of_laneDepthwiseRow {params : ConvParams} {values : Array Single}
    {image : ImageDims} {weights : LaneDepthwiseWeights} {bias : Option (Array Single)}
    {size batch outRow outColumn : Nat} {row : Row}
    (done : laneDepthwiseRow lanes params values image weights bias size batch outRow outColumn =
      .ok row) : row.size = size := by
  unfold laneDepthwiseRow at done
  simp only [bind_eq_ok, pure_eq_ok] at done
  obtain ⟨start, started, sums, summed, rfl⟩ := done
  have kept : sums.size = size := by
    refine foldlM_keeps (fun current : Row => current.size = size) (size_of_startRow started) ?_
      summed
    intro before tap after sized step
    simp only [bind_eq_ok] at step
    obtain ⟨inputs, _, run, _, step⟩ := step
    unfold laneDepthwiseStep at step
    split at step
    · rw [size_of_updateRow step, sized]
    · rw [size_of_tabulate step, sized]
  simpa using kept

theorem laneDepthwiseBody_fits (done : laneDepthwiseBody lanes call = .ok result) :
    call.Fits result := by
  unfold laneDepthwiseBody at done
  split at done
  · simp only [bind_eq_ok, lift_eq_ok, map_eq_ok] at done
    obtain ⟨_, _, _, _, _, _, _, _, _, _, _, _, _, _, _, _, ⟨output, old⟩, written, values,
      computed, rfl⟩ := done
    exact Call.fits_withSingles written (size_of_tabulateRows size_of_laneDepthwiseRow computed)
  · cases done

theorem size_of_lanePoolRow {params : PoolParams} {values : Array Single} {image : ImageDims}
    {size batch outRow outColumn : Nat} {row : Row}
    (done : lanePoolRow lanes params values image size batch outRow outColumn = .ok row) :
    row.size = size := by
  unfold lanePoolRow at done
  simp only [bind_eq_ok] at done
  obtain ⟨pooled, summed, done⟩ := done
  have kept : pooled.size = size := by
    refine foldlM_keeps (fun current : Row => current.size = size) (by simp) ?_ summed
    intro before position after sized step
    simp only [bind_eq_ok] at step
    obtain ⟨inputs, _, step⟩ := step
    rw [size_of_updateRow step, sized]
  split at done
  · rw [pure_eq_ok] at done
    rw [← done, ← kept]
    split <;> simp
  · split at done <;> split at done
    all_goals
      rw [pure_eq_ok] at done
      rw [← done, ← kept]
      simp

theorem lanePoolBody_fits (done : lanePoolBody lanes call = .ok result) : call.Fits result := by
  unfold lanePoolBody at done
  split at done
  · simp only [bind_eq_ok, lift_eq_ok, map_eq_ok] at done
    obtain ⟨_, _, _, _, _, _, _, _, _, _, ⟨output, old⟩, written, values, computed, rfl⟩ := done
    exact Call.fits_withSingles written (size_of_tabulateRows size_of_lanePoolRow computed)
  · cases done

end Lanes

open Kernel in
theorem Registry.default_frames [Host] : ∀ entry ∈ Registry.default.entries,
    entry.kernel.KeepsFrames ∧ entry.kernel.WritesOnlyData := by
  apply @default_kernels _ fun kernel => kernel.KeepsFrames ∧ kernel.WritesOnlyData
  constructor
  case conv => exact keepsFrames_ofBody fun _ _ done => convBody_fits done
  case maxPool | avgPool => exact keepsFrames_ofBody fun _ _ done => poolBody_fits done
  case batchNorm => exact keepsFrames_ofBody fun _ _ done => batchNormBody_fits done
  case softmax => exact keepsFrames_ofBody fun _ _ done => softmaxBody_fits done
  case fullyConnected =>
      exact keepsFrames_ofBody fun _ _ done =>
        fullyConnectedBody_fits size_of_accumulateProductBy done
  case pad => exact keepsFrames_ofBody fun _ _ done => padBody_fits done
  case convBytes => exact keepsFrames_ofBody fun _ _ done => storedConvBody_fits done
  case addBytes | addUnsignedBytes =>
      exact keepsFrames_ofBody fun _ _ done => storedBinaryBody_fits done
  case reluBytes | reluUnsignedBytes =>
      exact keepsFrames_ofBody fun _ _ done => storedActivationBody_fits done
  case maxPoolBytes | maxPoolUnsignedBytes =>
      exact keepsFrames_ofBody fun _ _ done => storedPoolBody_fits done
  case binary => exact keepsFrames_ofBody fun _ _ done => binaryBody_fits done
  case halfBinary => exact keepsFrames_ofBody fun _ _ done => halfBinaryBody_fits done
  case activation => exact keepsFrames_ofBody fun _ _ done => activationBody_fits done
  case halfActivation => exact keepsFrames_ofBody fun _ _ done => halfActivationBody_fits done
  case reduce => exact keepsFrames_ofBody fun _ _ done => reduceBody_fits done
  case reshape =>
      exact ⟨fun _ sized => run_ofBody_keeps fun _ done => reshapeBody_fits sized done,
        fun _ => run_ofBody_keeps fun _ done => reshapeBody_withoutData done⟩
  case transpose => exact keepsFrames_ofBody fun _ _ done => transposeBody_fits done
  case laneConv => exact fun _ => keepsFrames_ofBody fun _ _ done => laneConvBody_fits done
  case laneDepthwise =>
      exact fun _ => keepsFrames_ofBody fun _ _ done => laneDepthwiseBody_fits done
  case laneFullyConnected =>
      exact fun _ => keepsFrames_ofBody fun _ _ done =>
        fullyConnectedBody_fits size_of_accumulateProductChecked done
  case lanePool => exact fun _ => keepsFrames_ofBody fun _ _ done => lanePoolBody_fits done
  case laneBinary => exact fun _ => keepsFrames_ofBody fun _ _ done => laneBinaryBody_fits done
  case laneActivation =>
      exact fun _ => keepsFrames_ofBody fun _ _ done => laneActivationBody_fits done
  case acceleratorConv =>
      exact keepsFrames_ofBody fun _ _ done =>
        withStaged_fits (fun _ done => acceleratorConvBody_fits done) done
  case acceleratorFullyConnected =>
      exact keepsFrames_ofBody fun _ _ done =>
        withStaged_fits (fun _ done => acceleratorFullyConnectedBody_fits done) done

theorem Registry.default_keepsFrames [Host] :
    ∀ entry ∈ Registry.default.entries, entry.kernel.KeepsFrames :=
  fun entry member => (default_frames entry member).1

end TensorRuntime
