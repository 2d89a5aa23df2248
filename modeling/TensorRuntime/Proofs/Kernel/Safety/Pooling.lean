import TensorRuntime.Proofs.Kernel.Pooling
import TensorRuntime.Proofs.Kernel.Safety.Lanes

/-!
Pooling never aborts element by element: a window only covers positions of the image. Row
by row it needs rows that hold anything, as convolutions over lanes do.
-/

namespace TensorRuntime

open Attempt

structure PoolImages (image outImage : ImageDims) (input output : Tensor) : Prop where
  read : ImageDims.ofTensor input = .ok image
  written : ImageDims.ofDims output.dims image.layout = .ok outImage
  batch : outImage.batch = image.batch
  channels : outImage.channels = image.channels
  last : image.channelsLast = true → output.dims.getLast? = some image.channels

namespace PoolImages

variable {image outImage : ImageDims} {input output : Tensor}
  (images : PoolImages image outImage input output)

include images

theorem input_count : input.count = image.count :=
  ImageDims.volume_of_ofDims (ImageDims.ofTensor_eq_ok.1 images.read)

theorem output_count : output.count = outImage.count :=
  ImageDims.volume_of_ofDims images.written

theorem holds {pixel : Pixel} (inside : outImage.Holds pixel) {position : Nat × Nat}
    (covered : position.1 < image.height ∧ position.2 < image.width) :
    image.Holds ⟨pixel.batch, pixel.channel, position.1, position.2⟩ :=
  ⟨images.batch ▸ inside.1, images.channels ▸ inside.2.1, covered⟩

end PoolImages

/-- The images of a pooling, of which the output has one position for each window that fits. -/
structure PoolGeometry (settings : PoolParams) (image outImage : ImageDims)
    (input output : Tensor) : Prop extends PoolImages image outImage input output where
  rows : windowCount? image.height settings.kernel.1 settings.stride.1 1 settings.padding.top
    settings.padding.bottom = some outImage.height
  columns : windowCount? image.width settings.kernel.2 settings.stride.2 1 settings.padding.left
    settings.padding.right = some outImage.width

theorem PoolGeometry.exists_geometry {settings : PoolParams} {input output : Tensor}
    {others : List Tensor}
    (inferred : (Params.pool2d settings).outputShapeOf input others = .ok output.shape) :
    ∃ image outImage, PoolGeometry settings image outImage input output := by
  obtain ⟨image, height, width, found, rows, columns, shape⟩ :=
    poolOutputShape_eq_ok (lift_eq_ok.1 inferred)
  refine ⟨image, ⟨image.batch, image.channels, height, width, image.channelsLast⟩,
    ⟨found, ?_, rfl, rfl, fun last => ?_⟩, rows, columns⟩
  · rw [Tensor.dims, shape]
    exact ImageDims.ofDims_shapeWith _ _ _ _
  · rw [Tensor.dims, shape, ImageDims.shapeWith, if_pos last]
    rfl

theorem PreparedCall.poolImages {hook : Precompute} {settings : PoolParams} {inputs : List Tensor}
    {output : Tensor} {derived : Option Derived}
    (call : PreparedCall hook (.pool2d settings) inputs output derived) :
    ∃ input others image outImage, inputs = input :: others ∧
      PoolImages image outImage input output := by
  obtain ⟨input, others, rfl, _, _, _, inferred⟩ := call.head
  obtain ⟨image, outImage, geometry⟩ := PoolGeometry.exists_geometry inferred
  exact ⟨input, others, image, outImage, rfl, geometry.toPoolImages⟩

section Scalar

variable {image outImage : ImageDims} {input output : Tensor} {settings : PoolParams}

theorem safe_poolElement (images : PoolImages image outImage input output)
    {values : Array Single} (size : values.size = image.count) {pixel : Pixel}
    (inside : outImage.Holds pixel) : (poolElement settings values image pixel).Safe := by
  unfold poolElement
  refine Safe.bind (safe_mapM fun position member => safe_readAt ?_) fun covered _ => ?_
  · rw [size]
    exact ImageDims.index_lt_count (images.holds inside (inside_of_spans member))
  · dsimp only
    cases settings.mode <;> exact safe_pure _

theorem poolBody_safe {hook : Precompute} {op : OpKind} {params : Params} {inputs : List Tensor}
    {derived : Option Derived} (call : AdmittedCall hook op params inputs output derived) :
    (poolBody ⟨params, inputs, [output], derived⟩).Safe := by
  cases params with
  | pool2d settings =>
      obtain ⟨input, others, image, outImage, rfl, images⟩ := call.poolImages
      have sized := call.sized
      unfold poolBody
      refine .bind_lift fun _ found => ?_
      cases found
      refine .bind_lift fun _ found => ?_
      cases images.read.symm.trans found
      refine .bind_lift fun _ found => ?_
      cases found
      refine .bind_lift fun _ found => ?_
      cases images.written.symm.trans found
      refine Tensor.safe_bind_singles (sized input (by simp)) fun values size => ?_
      refine Call.safe_bind_output (sized output (by simp)) fun old oldSize => ?_
      refine (safe_tabulate fun index bound => ?_).map _
      rw [oldSize, images.output_count] at bound
      obtain ⟨pixel, placed, inside⟩ := ImageDims.pixelAt_inside bound
      exact .bind_ok placed (safe_poolElement images (size.trans images.input_count) inside)
  | _ => exact safe_refuse _

end Scalar

section Stored

variable {image outImage : ImageDims} {input output : Tensor} {settings : PoolParams}

theorem safe_storedPoolElement (images : PoolImages image outImage input output)
    {stored : Array Int} (size : stored.size = image.count) {affine outAffine : Affine}
    {range : Int × Int} {pixel : Pixel} (inside : outImage.Holds pixel) :
    (storedPoolElement settings stored image affine outAffine range pixel).Safe := by
  unfold storedPoolElement
  refine Safe.bind (safe_mapM fun position member => safe_readAt ?_) fun covered _ => safe_pure _
  rw [size]
  exact ImageDims.index_lt_count (images.holds inside (inside_of_spans member))

theorem storedPoolBody_safe {hook : Precompute} {op : OpKind} {elementType : ElementType}
    {params : Params} {inputs : List Tensor} {derived : Option Derived}
    (call : AdmittedCall hook op params inputs output derived) :
    (storedPoolBody elementType ⟨params, inputs, [output], derived⟩).Safe := by
  cases params with
  | pool2d settings =>
      obtain ⟨input, others, image, outImage, rfl, images⟩ := call.poolImages
      have sized := call.sized
      unfold storedPoolBody
      refine safe_guard fun _ => .bind_lift fun _ found => ?_
      cases found
      refine .bind_lift fun affine _ => .bind_lift fun _ found => ?_
      cases images.read.symm.trans found
      refine .bind_lift fun _ found => ?_
      cases found
      refine .bind_lift fun outAffine _ => .bind_lift fun _ found => ?_
      cases images.written.symm.trans found
      refine Tensor.safe_bind_stored (sized input (by simp)) fun stored size => ?_
      refine Tensor.safe_bind_slots (sized output (by simp)) fun integer => ?_
      refine Safe.bind (safe_tabulate fun index bound => ?_)
        fun _ _ => Tensor.safe_withStored integer _
      rw [images.output_count] at bound
      obtain ⟨pixel, placed, inside⟩ := ImageDims.pixelAt_inside bound
      exact .bind_ok placed (safe_storedPoolElement images (size.trans images.input_count) inside)
  | _ => exact safe_refuse _

end Stored

section Rows

variable {lanes : Nat} {image outImage : ImageDims} {input output : Tensor}
  {settings : PoolParams}

theorem safe_lanePoolRow {values : Array Single} (size : values.size = image.count)
    (last : image.channelsLast = true) {width batch outRow outColumn : Nat}
    (batchBound : batch < image.batch) :
    (lanePoolRow lanes settings values image width batch outRow outColumn).Safe := by
  unfold lanePoolRow
  dsimp only
  refine Safe.bind (safe_foldlM_of_steps fun position member pooled => ?_) fun pooled _ => ?_
  · obtain ⟨row, column⟩ := inside_of_spans member
    refine Safe.bind (safe_readRun ?_) fun _ _ => safe_updateRow
    rw [size]
    exact ImageDims.run_le_count last batchBound (by simp) row column
  · cases settings.mode with
    | max => exact safe_pure _
    | avg =>
        dsimp only
        split <;> split <;> exact safe_pure _

theorem lanePoolBody_safe {hook : Precompute} {op : OpKind} {params : Params}
    {inputs : List Tensor} {derived : Option Derived}
    (call : AdmittedCall hook op params inputs output derived)
    (rows : output.dims.getLast? ≠ some 0) :
    (lanePoolBody lanes ⟨params, inputs, [output], derived⟩).Safe := by
  cases params with
  | pool2d settings =>
      obtain ⟨input, others, image, outImage, rfl, images⟩ := call.poolImages
      have sized := call.sized
      unfold lanePoolBody
      refine .bind_lift fun _ found => ?_
      cases found
      refine .bind_lift fun _ found => ?_
      obtain ⟨found, last⟩ := channelsLastDims_eq_ok.1 found
      cases images.read.symm.trans found
      refine .bind_lift fun _ found => ?_
      cases found
      refine .bind_lift fun _ found => ?_
      rw [← ImageDims.layout_of_last last] at found
      cases images.written.symm.trans found
      refine Tensor.safe_bind_singles (sized input (by simp)) fun values size => ?_
      refine Call.safe_bind_output (sized output (by simp)) fun old oldSize => ?_
      refine Safe.map _ ?_
      have wide : 0 < outImage.channels := by
        rw [images.channels]
        exact (pos_iff_lastFilled (images.last last)).2 rows
      rw [← images.channels]
      refine safe_tabulateRows (oldSize.trans images.output_count) wide ?_
      intro batch batchBound outRow outColumn
      exact safe_lanePoolRow (size.trans images.input_count) last (images.batch ▸ batchBound)
  | _ => exact safe_refuse _

theorem channels_of_lanePoolBody {hook : Precompute} {op : OpKind} {params : Params}
    {inputs : List Tensor} {result : Tensor} {derived : Option Derived}
    (call : AdmittedCall hook op params inputs output derived)
    (done : lanePoolBody lanes ⟨params, inputs, [output], derived⟩ = .ok result) :
    output.dims.getLast? ≠ some 0 := by
  cases params with
  | pool2d settings =>
      obtain ⟨input, others, image, outImage, rfl, images⟩ := call.poolImages
      unfold lanePoolBody at done
      simp only [bind_eq_ok, lift_eq_ok, map_eq_ok] at done
      obtain ⟨_, found, _, read, _, _, _, _, _, _, _, _, _, written, _⟩ := done
      cases found
      obtain ⟨read, last⟩ := channelsLastDims_eq_ok.1 read
      cases images.read.symm.trans read
      exact (pos_iff_lastFilled (images.last last)).1 (width_of_tabulateRows written)
  | _ => cases done

end Rows

end TensorRuntime
