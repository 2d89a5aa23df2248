import TensorRuntime.Proofs.Kernel.ImageCalls

/-!
Positions inside images, in either order of their axes, and the extents that shape
inference has found to fit before a convolution or a pooling runs.
-/

namespace TensorRuntime

open Attempt

namespace ImageDims

variable {image : ImageDims}

theorem volume_of_ofDims {dims : List Nat} {layout : Layout}
    (found : ofDims dims layout = .ok image) : volume dims = image.count := by
  obtain ⟨_, _, rfl⟩ | ⟨_, _, rfl⟩ := ofDims_cases found
  · simp only [volume_cons, volume_nil, count]
    ac_rfl
  · simp only [volume_cons, volume_nil, count]
    ac_rfl

theorem ofDims_shapeWith (image : ImageDims) (channels height width : Nat) :
    ofDims (image.shapeWith channels height width).dims image.layout =
      .ok ⟨image.batch, channels, height, width, image.channelsLast⟩ := by
  unfold shapeWith layout
  cases image.channelsLast <;> rfl

theorem index_lt_count {pixel : Pixel} (inside : image.Holds pixel) :
    image.index pixel < image.count := by
  obtain ⟨batch, channel, row, column⟩ := inside
  unfold index count
  split
  · refine Nat.lt_of_lt_of_eq (place_lt (place_lt (place_lt batch row) column) channel) ?_
    ac_rfl
  · exact place_lt (place_lt (place_lt batch channel) row) column

theorem run_le_count (last : image.channelsLast = true) {batch first length row column : Nat}
    (batchBound : batch < image.batch) (channels : first + length ≤ image.channels)
    (rowBound : row < image.height) (columnBound : column < image.width) :
    image.index ⟨batch, first, row, column⟩ + length ≤ image.count := by
  have whole := run_le last batchBound rowBound columnBound
  have same : image.batch * image.height * image.width * image.channels = image.count := by
    unfold count
    ac_rfl
  rw [index_channel last]
  omega

theorem positive_of_count {position : Nat} (bound : position < image.count) :
    0 < image.channels ∧ 0 < image.height ∧ 0 < image.width := by
  unfold count at bound
  have positive : 0 < image.batch * image.channels * image.height * image.width := by omega
  have rows := Nat.pos_of_mul_pos_right positive
  exact ⟨Nat.pos_of_mul_pos_left (Nat.pos_of_mul_pos_right rows), Nat.pos_of_mul_pos_left rows,
    Nat.pos_of_mul_pos_left positive⟩

theorem pixelOf_inside {position : Nat} (bound : position < image.count) :
    image.Holds (image.pixelOf position) := by
  obtain ⟨channels, height, width⟩ := positive_of_count bound
  refine pixelOf_holds channels height width (Nat.lt_of_lt_of_eq bound ?_)
  unfold count
  ac_rfl

theorem pixelAt_inside {position : Nat} (bound : position < image.count) :
    ∃ pixel, image.pixelAt position = .ok pixel ∧ image.Holds pixel := by
  obtain ⟨channels, height, width⟩ := positive_of_count bound
  unfold pixelAt
  rw [if_neg (by omega)]
  by_cases last : image.channelsLast = true
  · rw [if_pos last]
    exact ⟨_, rfl, pixelOf_inside bound⟩
  · rw [if_neg last]
    refine ⟨_, rfl, ?_, Nat.mod_lt _ channels, Nat.mod_lt _ height, Nat.mod_lt _ width⟩
    rw [Nat.div_lt_iff_lt_mul channels, Nat.div_lt_iff_lt_mul height, Nat.div_lt_iff_lt_mul width]
    exact bound

end ImageDims

end TensorRuntime
