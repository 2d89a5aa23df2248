import TensorRuntime.Catalogue
import TensorRuntime.Proofs.Refusals

/-!
The loops of the kernels. They index, divide and add, all of which may abort, but what a
kernel refuses it refuses before its loop.
-/

namespace TensorRuntime

open Attempt

section Positions

theorem ImageDims.unrefused_pixelAt (image : ImageDims) (position : Nat) :
    (image.pixelAt position).Unrefused := by
  unfold pixelAt
  split
  · exact unrefused_abort
  · split <;> exact failsOnly_pure _

theorem Shape.unrefused_offsetOf (dims strides : List Nat) (position : Nat) :
    (offsetOf dims strides position).Unrefused := by
  unfold offsetOf
  split
  · exact unrefused_abort
  · exact failsOnly_pure _

end Positions

section Images

variable (settings : ConvParams) (values : Array Single) (image : ImageDims)
  (bias : Option (Array Single))

theorem unrefused_startValue (channel : Nat) : (startValue bias channel).Unrefused := by
  cases bias with
  | none => exact failsOnly_pure _
  | some start => exact unrefused_readAt _ _

theorem ConvWeights.unrefused_pack (weights : Array Single) (dims : List Nat) :
    (pack weights dims).Unrefused := by
  unfold pack
  split
  · exact (unrefused_repack _ _ _).bind fun _ _ => failsOnly_pure _
  · exact unrefused_abort

theorem unrefused_convElement (weights : ConvWeights) (outPerGroup : Nat) (pixel : Pixel) :
    (convElement settings values image weights bias outPerGroup pixel).Unrefused := by
  unfold convElement
  refine (unrefused_nonzero _).bind fun _ _ => (unrefused_startValue _ _).bind fun _ _ =>
    FailsOnly.bind (failsOnly_foldlM fun tap _ sum => ?_) fun _ _ => failsOnly_pure _
  refine (unrefused_readRun _ _ _).bind fun run _ => failsOnly_foldlM fun entry _ sum => ?_
  exact (unrefused_readAt _ _).bind fun _ _ => failsOnly_pure _

theorem unrefused_poolElement (pooling : PoolParams) (pixel : Pixel) :
    (poolElement pooling values image pixel).Unrefused := by
  unfold poolElement
  refine FailsOnly.bind (failsOnly_mapM fun _ _ => unrefused_readAt _ _) fun _ _ => ?_
  dsimp only
  cases pooling.mode <;> exact failsOnly_pure _

end Images

section StoredIntegers

variable (stored : Array Int) (image : ImageDims)

theorem unrefused_storedPoolElement (pooling : PoolParams) (affine outAffine : Affine)
    (range : Int × Int) (pixel : Pixel) :
    (storedPoolElement pooling stored image affine outAffine range pixel).Unrefused := by
  unfold storedPoolElement
  exact FailsOnly.bind (failsOnly_mapM fun _ _ => unrefused_readAt _ _) fun _ _ => failsOnly_pure _

theorem unrefused_storedConvSum (settings : ConvParams) (zeroPoint : Int) (weights : StoredWeights)
    (weightZero : Int) (group : Nat) (pixel : Pixel) :
    (storedConvSum settings stored image zeroPoint weights weightZero group pixel).Unrefused := by
  unfold storedConvSum
  refine failsOnly_foldlM fun tap _ sum => failsOnly_foldlM fun channel _ sum => ?_
  exact (unrefused_readAt _ _).bind fun _ _ => (unrefused_readAt _ _).bind fun _ _ =>
    failsOnly_pure _

end StoredIntegers

section Rows

variable {lanes : Nat} (settings : ConvParams) (values : Array Single) (image : ImageDims)
  (bias : Option (Array Single)) (size batch outRow outColumn : Nat)

theorem unrefused_updateRow (row : Row) (others : List (Array Single))
    (combine : Single → List Single → Single) :
    (updateRow lanes row others combine).Unrefused := by
  refine unrefused_tabulate fun index _ => (unrefused_readAt _ _).bind fun _ _ => ?_
  split
  · exact FailsOnly.bind (failsOnly_mapM fun _ _ => unrefused_readAt _ _) fun _ _ =>
      failsOnly_pure _
  · exact failsOnly_pure _

theorem unrefused_tabulateRows {width : Nat} {old : Array Single}
    {rowAt : Nat → Nat → Nat → Nat → Attempt Row}
    (each : ∀ size batch row column, (rowAt size batch row column).Unrefused) :
    (tabulateRows width image old rowAt).Unrefused := by
  refine (unrefused_nonzero _).bind fun _ _ =>
    FailsOnly.bind (failsOnly_mapM fun _ _ => ?_) fun _ _ => failsOnly_pure _
  exact (unrefused_nonzero _).bind fun _ _ => (unrefused_nonzero _).bind fun _ _ => each _ _ _ _

theorem unrefused_startRow : (startRow bias size).Unrefused := by
  unfold startRow
  split
  · split
    · exact failsOnly_pure _
    · exact unrefused_abort
  · exact failsOnly_pure _

theorem LaneConvWeights.unrefused_pack (weights : Array Single) (dims : List Nat) :
    (pack weights dims).Unrefused := by
  unfold pack
  split
  · exact (unrefused_repack _ _ _).bind fun _ _ => failsOnly_pure _
  · exact unrefused_abort

theorem unrefused_laneConvRow (weights : LaneConvWeights) :
    (laneConvRow lanes settings values image weights bias size batch outRow
      outColumn).Unrefused := by
  refine (unrefused_startRow _ _).bind fun _ _ =>
    FailsOnly.bind (failsOnly_foldlM fun tap _ sums => ?_) fun _ _ => failsOnly_pure _
  refine (unrefused_readRun _ _ _).bind fun inputs _ => failsOnly_foldlM fun entry _ sums => ?_
  exact FailsOnly.bind ((unrefused_readRun _ _ _).map _) fun _ _ => unrefused_updateRow _ _ _

theorem LaneDepthwiseWeights.unrefused_pack (weights : Array Single) (dims : List Nat) :
    (pack weights dims).Unrefused := by
  unfold pack
  split
  · exact (unrefused_repack _ _ _).bind fun _ _ => failsOnly_pure _
  · exact unrefused_abort

theorem unrefused_laneDepthwiseStep (multiplier : Nat) (inputs taps : Array Single) (sums : Row) :
    (laneDepthwiseStep lanes multiplier inputs taps sums).Unrefused := by
  unfold laneDepthwiseStep
  split
  · exact unrefused_updateRow _ _ _
  · exact unrefused_tabulate fun _ _ => (unrefused_nonzero _).bind fun _ _ =>
      (unrefused_readAt _ _).bind fun _ _ => (unrefused_readAt _ _).bind fun _ _ =>
        (unrefused_readAt _ _).bind fun _ _ => failsOnly_pure _

theorem unrefused_laneDepthwiseRow (weights : LaneDepthwiseWeights) :
    (laneDepthwiseRow lanes settings values image weights bias size batch outRow
      outColumn).Unrefused := by
  refine (unrefused_startRow _ _).bind fun _ _ =>
    FailsOnly.bind (failsOnly_foldlM fun tap _ sums => ?_) fun _ _ => failsOnly_pure _
  exact (unrefused_readRun _ _ _).bind fun _ _ =>
    FailsOnly.bind ((unrefused_readRun _ _ _).map _) fun _ _ => unrefused_laneDepthwiseStep _ _ _ _

theorem unrefused_lanePoolRow (pooling : PoolParams) :
    (lanePoolRow lanes pooling values image size batch outRow outColumn).Unrefused := by
  unfold lanePoolRow
  dsimp only
  refine FailsOnly.bind (failsOnly_foldlM fun position _ pooled => ?_) fun _ _ => ?_
  · exact (unrefused_readRun _ _ _).bind fun _ _ => unrefused_updateRow _ _ _
  · cases pooling.mode with
    | max => exact failsOnly_pure _
    | avg =>
        dsimp only
        split <;> split <;> exact failsOnly_pure _

end Rows

section Elementwise

variable (op : BinaryOp) (activation : FusedActivation) (first second old : Array Single)

theorem unrefused_broadcastStrides (dims outDims : List Nat) :
    (broadcastStrides dims outDims).Unrefused := by
  unfold broadcastStrides
  split
  · exact unrefused_abort
  · exact failsOnly_pure _

theorem unrefused_combineInto (firstDims secondDims outDims : List Nat) :
    (combineInto op activation first firstDims second secondDims old outDims).Unrefused := by
  unfold combineInto
  split
  · exact failsOnly_pure _
  · refine (unrefused_broadcastStrides _ _).bind fun _ _ =>
      (unrefused_broadcastStrides _ _).bind fun _ _ => unrefused_tabulate fun index _ => ?_
    exact (Shape.unrefused_offsetOf _ _ _).bind fun _ _ => (unrefused_readAt _ _).bind fun _ _ =>
      (Shape.unrefused_offsetOf _ _ _).bind fun _ _ => (unrefused_readAt _ _).bind fun _ _ =>
        failsOnly_pure _

theorem unrefused_combineLanes (lanes : Nat) :
    (combineLanes lanes op activation first second old).Unrefused := by
  refine unrefused_tabulate fun index _ => ?_
  split
  · exact (unrefused_readAt _ _).bind fun _ _ => (unrefused_readAt _ _).bind fun _ _ =>
      failsOnly_pure _
  · exact unrefused_readAt _ _

end Elementwise

section Lines

variable (values : Array Single) (dims : List Nat)

theorem unrefused_reduceInto (settings : ReduceParams) (outputSize : Nat) :
    (reduceInto settings values dims outputSize).Unrefused := by
  unfold reduceInto
  dsimp only
  refine failsOnly_check (fun _ => rfl) fun _ =>
    FailsOnly.bind (failsOnly_foldlM fun entry _ totals => ?_) fun _ _ => ?_
  · exact (Shape.unrefused_offsetOf _ _ _).bind fun _ _ => (unrefused_readAt _ _).bind fun _ _ =>
      unrefused_writeAt _ _ _
  · split <;> exact failsOnly_pure _

theorem unrefused_softmaxInto (axis : Nat) (old : Array Single) :
    (softmaxInto values dims axis old).Unrefused := by
  unfold softmaxInto
  split
  · exact unrefused_abort
  · refine failsOnly_foldlM fun places _ written =>
      FailsOnly.bind (failsOnly_mapM fun _ _ => unrefused_readAt _ _) fun _ _ => ?_
    exact failsOnly_foldlM fun _ _ _ => unrefused_writeAt _ _ _

theorem unrefused_padInto (pads : List (Nat × Nat)) (value : Single) (outputSize : Nat)
    (outDims : List Nat) : (padInto values dims pads value outputSize outDims).Unrefused := by
  unfold padInto
  dsimp only
  refine failsOnly_check (fun _ => rfl) fun _ => failsOnly_foldlM fun entry _ padded => ?_
  refine failsOnly_check (fun _ => rfl) fun _ => ?_
  exact (Shape.unrefused_offsetOf _ _ _).bind fun _ _ => unrefused_writeAt _ _ _

theorem unrefused_transposeSources (permutation : List Nat) :
    (transposeSources dims permutation).Unrefused := by
  unfold transposeSources
  refine FailsOnly.bind (failsOnly_mapM fun _ _ => unrefused_readAt _ _) fun _ _ => ?_
  split
  · exact failsOnly_pure _
  · exact failsOnly_check (fun _ => rfl) fun _ =>
      failsOnly_mapM fun _ _ => Shape.unrefused_offsetOf _ _ _

theorem unrefused_gatherInto {α : Type} (values old : Array α) (sources : List Nat) :
    (gatherInto values old sources).Unrefused :=
  FailsOnly.bind (failsOnly_mapM fun _ _ => unrefused_readAt _ _) fun _ _ => failsOnly_pure _

end Lines

section Products

def Accumulate.NeverRefuses (accumulate : Accumulate) : Prop :=
  ∀ first second total rows columns inner,
    (accumulate first second total rows columns inner).Unrefused

theorem accumulateProductBy_neverRefuses (add : Nat → Single → Single → Single → Single) :
    Accumulate.NeverRefuses (accumulateProductBy add) := by
  intro first second total rows columns inner
  refine failsOnly_foldlM fun step _ total => ?_
  exact (unrefused_readAt _ _).bind fun _ _ => (unrefused_readAt _ _).bind fun _ _ =>
    (unrefused_readAt _ _).bind fun _ _ => unrefused_writeAt _ _ _

theorem accumulateProductChecked_neverRefuses [Host] :
    Accumulate.NeverRefuses accumulateProductChecked := by
  intro first second total rows columns inner
  unfold accumulateProductChecked
  split
  · split
    · exact unrefused_abort
    · exact accumulateProductBy_neverRefuses _ _ _ _ _ _ _
  · exact accumulateProductBy_neverRefuses _ _ _ _ _ _ _

theorem unrefused_transposeMatrix (values : Array Single) (rows columns : Nat) :
    (transposeMatrix values rows columns).Unrefused := by
  unfold transposeMatrix
  split
  · exact unrefused_abort
  · exact unrefused_tabulate fun _ _ => unrefused_readAt _ _

theorem unrefused_fullyConnectedInto {accumulate : Accumulate} (never : accumulate.NeverRefuses)
    (values : Array Single) (weights : TransposedWeights) (bias : Option (Array Single))
    (activation : FusedActivation) (old : Array Single) (rows : Nat) :
    (fullyConnectedInto accumulate values weights bias activation old rows).Unrefused := by
  refine FailsOnly.bind ((unrefused_nonzero _).bind fun _ _ => unrefused_tabulate fun index _ => ?_)
    fun _ _ => (never _ _ _ _ _ _).bind fun _ _ => failsOnly_pure _
  split
  · split
    · split
      · exact unrefused_readAt _ _
      · exact unrefused_abort
    · exact failsOnly_pure _
  · exact unrefused_readAt _ _

end Products

end TensorRuntime
