import TensorRuntime.Kernel.Lanes
import TensorRuntime.Proofs.Kernel.Safety.Calls

/-!
Fully connected layers never abort where there are outputs. Without any, the rows of the
output are cut by a division by zero.
-/

namespace TensorRuntime

open Attempt

section Product

variable {rows columns inner : Nat}

theorem lt_of_mem_tiles {extent position : Nat} {tile : Nat × Nat} (listed : tile ∈ tiles extent)
    (member : position ∈ tilePositions tile) : position < extent := by
  obtain ⟨place, _, rfl⟩ := List.mem_map.1 listed
  unfold tilePositions at member
  rw [List.mem_range'_1] at member
  omega

theorem bounds_of_productSteps {step : Nat × Nat × Nat}
    (member : step ∈ productSteps rows columns inner) :
    step.1 < rows ∧ step.2.1 < columns ∧ step.2.2 < inner := by
  simp only [productSteps, List.mem_flatMap, List.mem_map] at member
  obtain ⟨rowTile, rowListed, columnTile, columnListed, innerTile, innerListed, row, rowMember,
    index, indexMember, column, columnMember, rfl⟩ := member
  exact ⟨lt_of_mem_tiles rowListed rowMember, lt_of_mem_tiles columnListed columnMember,
    lt_of_mem_tiles innerListed indexMember⟩

variable {first second total : Array Single}

theorem safe_accumulateProductBy (add : Nat → Single → Single → Single → Single)
    (firstSize : first.size = rows * inner) (secondSize : second.size = inner * columns)
    (totalSize : total.size = rows * columns) :
    (accumulateProductBy add first second total rows columns inner).Safe := by
  unfold accumulateProductBy
  refine safe_foldlM (fun total : Array Single => total.size = rows * columns) totalSize ?_ ?_
  · rintro ⟨row, column, index⟩ member total size
    obtain ⟨rowBound, columnBound, indexBound⟩ := bounds_of_productSteps member
    have place : row * columns + column < total.size := size ▸ place_lt rowBound columnBound
    refine (safe_readAt (firstSize ▸ place_lt rowBound indexBound)).bind fun _ _ => ?_
    refine (safe_readAt (secondSize ▸ place_lt indexBound columnBound)).bind fun _ _ => ?_
    exact (safe_readAt place).bind fun _ _ => safe_writeAt place
  · rintro ⟨row, column, index⟩ _ total after size step
    simp only [bind_eq_ok] at step
    obtain ⟨_, _, _, _, _, _, step⟩ := step
    rw [size_of_writeAt step, size]

theorem safe_accumulateProductChecked [Host] (firstSize : first.size = rows * inner)
    (secondSize : second.size = inner * columns) (totalSize : total.size = rows * columns) :
    (accumulateProductChecked first second total rows columns inner).Safe := by
  unfold accumulateProductChecked
  split
  · rw [if_neg (by omega)]
    exact safe_accumulateProductBy _ firstSize secondSize totalSize
  · exact safe_accumulateProductBy _ firstSize secondSize totalSize

end Product

def Accumulate.SafeOnProducts (accumulate : Accumulate) : Prop :=
  ∀ {first second total : Array Single} {rows columns inner : Nat}, first.size = rows * inner →
    second.size = inner * columns → total.size = rows * columns →
      (accumulate first second total rows columns inner).Safe

section Layer

variable {bias : Option (Array Single)} {old : Array Single}

theorem safe_startRows {columns : Nat} (wide : 0 < columns)
    (biasSize : ∀ start, bias = some start → start.size = columns) :
    (startRows bias columns old).Safe := by
  unfold startRows
  refine (safe_nonzero wide).bind fun _ _ => safe_tabulate fun index bound => ?_
  split
  · cases bias with
    | none => exact safe_pure _
    | some start =>
        have size := biasSize start rfl
        have bound : index % columns < start.size := by
          rw [size]
          exact Nat.mod_lt index wide
        dsimp only
        rw [if_pos size]
        exact safe_readAt bound
  · exact safe_readAt bound

theorem size_of_startRows {columns : Nat} {start : Array Single}
    (started : startRows bias columns old = .ok start) : start.size = old.size := by
  unfold startRows at started
  rw [bind_eq_ok] at started
  obtain ⟨_, _, tabulated⟩ := started
  exact size_of_tabulate tabulated

theorem fullyConnectedBody_safe {accumulate : Accumulate} (products : accumulate.SafeOnProducts)
    {routine : String} {op : OpKind} {params : Params} {inputs : List Tensor} {output : Tensor}
    {derived : Option Derived}
    (call : AdmittedCall transposeWeights op params inputs output derived)
    (wide : output.dims.getLast? ≠ some 0) :
    (fullyConnectedBody routine accumulate ⟨params, inputs, [output], derived⟩).Safe := by
  cases params with
  | fullyConnected activation =>
      obtain ⟨input, weights, rest, rows, inner, columns, transposed, rfl, inputDims, weightDims,
        outputDims, biasDims, rfl, sameColumns, sameInner, weightsSize⟩ := call.transposed
      have last : output.dims.getLast? = some columns := by rw [outputDims]; rfl
      have positive := (pos_iff_lastFilled last).2 wide
      have sized := call.sized
      unfold fullyConnectedBody
      refine .bind_lift fun _ found => ?_
      cases found
      refine .bind_lift fun _ found => ?_
      cases found
      refine .bind_lift fun bias biasRead => ?_
      have biasSize := call.size_of_bias biasDims biasRead
      refine .bind_ok rfl ?_
      rw [inputDims]
      dsimp only
      refine Tensor.safe_bind_singles (sized input (by simp)) fun values size => ?_
      refine Call.safe_bind_output (sized output (by simp)) fun old oldSize => Safe.map _ ?_
      have inputSize := size.trans (Tensor.count_of_matrix inputDims)
      have outputSize := oldSize.trans (Tensor.count_of_matrix outputDims)
      unfold fullyConnectedInto
      rw [sameColumns, sameInner]
      refine (safe_startRows positive biasSize).bind fun start started => ?_
      exact (products inputSize (weightsSize.trans (Nat.mul_comm _ _))
        ((size_of_startRows started).trans outputSize)).bind fun _ _ => safe_pure _
  | _ => exact safe_refuse _

theorem columns_of_fullyConnectedBody {accumulate : Accumulate} {routine : String} {op : OpKind}
    {params : Params} {inputs : List Tensor} {output result : Tensor} {derived : Option Derived}
    (call : AdmittedCall transposeWeights op params inputs output derived)
    (done : fullyConnectedBody routine accumulate ⟨params, inputs, [output], derived⟩ =
      .ok result) : output.dims.getLast? ≠ some 0 := by
  cases params with
  | fullyConnected activation =>
      obtain ⟨input, weights, rest, rows, inner, columns, transposed, rfl, inputDims, _,
        outputDims, _, rfl, sameColumns, _⟩ := call.transposed
      unfold fullyConnectedBody fullyConnectedInto startRows at done
      simp only [bind_eq_ok, lift_eq_ok] at done
      obtain ⟨_, found, _, _, _, _, _, taken, done⟩ := done
      cases found
      cases taken
      rw [inputDims] at done
      simp only [bind_eq_ok, lift_eq_ok, map_eq_ok] at done
      obtain ⟨_, _, _, _, _, ⟨_, ⟨_, divided, _⟩, _⟩, _⟩ := done
      have positive := pos_of_nonzero divided
      rw [sameColumns] at positive
      have last : output.dims.getLast? = some columns := by rw [outputDims]; rfl
      exact (pos_iff_lastFilled last).1 positive
  | _ => cases done

end Layer

end TensorRuntime
