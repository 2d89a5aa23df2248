import TensorRuntime.Proofs.Kernel.Safety.Convolution

/-!
What a convolution reads for one output pixel. The loops of the kernels read the taps of the
textbook formula in its order; the coordinates of a tap are added up in machine words, which give
the formula's own, negative ones included, wherever the reach of the kernel is a word.
-/

namespace TensorRuntime

theorem tapCoordinate?_eq (window tap stride dilation before extent : Nat) :
    tapCoordinate? window tap stride dilation before extent =
      let coordinate : Int := word (window * stride + tap * dilation) - before
      if 0 ≤ coordinate ∧ coordinate < extent then some coordinate.toNat else none := by
  unfold tapCoordinate?
  dsimp only
  by_cases inside : before ≤ word (window * stride + tap * dilation) ∧
      word (window * stride + tap * dilation) - before < extent
  · have same : ((word (window * stride + tap * dilation) : Int) - before).toNat =
        word (window * stride + tap * dilation) - before := by omega
    rw [if_pos inside, if_pos (by omega), same]
  · rw [if_neg inside, if_neg (by omega)]

namespace ConvExtents

variable {extents : ConvExtents} {pixel : Pixel} {read : Tap × Nat}

theorem Describes.unique {other : ConvExtents} {input weights output : Tensor} {rest : List Tensor}
    (describes : extents.Describes input weights rest output)
    (describes' : other.Describes input weights rest output)
    (settings : extents.settings = other.settings) : extents = other := by
  obtain ⟨image, kernel, _, _, _, shape⟩ := describes
  obtain ⟨image', kernel', _, _, _, shape'⟩ := describes'
  obtain ⟨own, pixels, outPerGroup, perGroup, kernelHeight, kernelWidth, height, width, grouped,
    _⟩ := extents
  obtain ⟨_, _, outPerGroup', _, _, _, height', width', _, _⟩ := other
  cases settings
  cases image.symm.trans image'
  have dims := kernel.symm.trans kernel'
  simp only [outChannels, List.cons.injEq, and_true] at dims
  obtain ⟨outs, rfl, rfl, rfl⟩ := dims
  obtain rfl : outPerGroup = outPerGroup' := Nat.eq_of_mul_eq_mul_left grouped outs
  have extent : height = height' ∧ width = width' := by
    have same := shape.symm.trans shape'
    unfold ImageDims.shapeWith at same
    by_cases last : pixels.channelsLast = true
    · simpa [last, outChannels] using same
    · simpa [last, outChannels] using same
  obtain ⟨rfl, rfl⟩ := extent
  rfl

/-- The tap at a place of the kernel, if it lies over the image. The place of the window and the
step of the tap are added up by `sum`. -/
def tapAt? (extents : ConvExtents) (sum : Nat → Nat) (pixel : Pixel)
    (kernelRow kernelColumn : Nat) : Option Tap :=
  let row : Int := sum (pixel.row * extents.settings.stride.1 +
    kernelRow * extents.settings.dilation.1) - extents.settings.padding.top
  let column : Int := sum (pixel.column * extents.settings.stride.2 +
    kernelColumn * extents.settings.dilation.2) - extents.settings.padding.left
  if (0 ≤ row ∧ row < extents.image.height) ∧ 0 ≤ column ∧ column < extents.image.width then
    some ⟨kernelRow, kernelColumn, row.toNat, column.toNat⟩
  else none

/-- The taps of an output pixel with the channels of its group, by row and column of the kernel and
then by channel. -/
def readsBy (extents : ConvExtents) (sum : Nat → Nat) (pixel : Pixel) : List (Tap × Nat) :=
  (List.range extents.kernelHeight).flatMap fun kernelRow =>
    (List.range extents.kernelWidth).flatMap fun kernelColumn =>
      (List.range extents.perGroup).filterMap fun channel =>
        (extents.tapAt? sum pixel kernelRow kernelColumn).map fun tap => (tap, channel)

def reads (extents : ConvExtents) (pixel : Pixel) : List (Tap × Nat) :=
  extents.readsBy word pixel

def source (extents : ConvExtents) (pixel : Pixel) (read : Tap × Nat) : Pixel :=
  ⟨pixel.batch, pixel.channel / extents.outPerGroup * extents.perGroup + read.2, read.1.row,
    read.1.column⟩

def weightPlace (extents : ConvExtents) (outChannel : Nat) (read : Tap × Nat) : Nat :=
  ((outChannel * extents.perGroup + read.2) * extents.kernelHeight + read.1.kernelRow) *
    extents.kernelWidth + read.1.kernelColumn

def taps (extents : ConvExtents) (pixel : Pixel) : List Tap :=
  convTaps extents.settings extents.kernelHeight extents.kernelWidth extents.image pixel.row
    pixel.column

theorem tapAt?_eq (kernelRow kernelColumn : Nat) :
    extents.tapAt? word pixel kernelRow kernelColumn =
      (tapCoordinate? pixel.row kernelRow extents.settings.stride.1 extents.settings.dilation.1
        extents.settings.padding.top extents.image.height).bind fun row =>
      (tapCoordinate? pixel.column kernelColumn extents.settings.stride.2
        extents.settings.dilation.2 extents.settings.padding.left extents.image.width).map
        fun column => ⟨kernelRow, kernelColumn, row, column⟩ := by
  unfold tapAt?
  rw [tapCoordinate?_eq, tapCoordinate?_eq]
  dsimp only
  split
  · rename_i inside
    rw [if_pos inside.1, if_pos inside.2]
    rfl
  · rename_i outside
    split
    · rename_i row
      rw [if_neg fun column => outside ⟨row, column⟩]
      rfl
    · rfl

theorem reads_eq : extents.reads pixel = (extents.taps pixel).flatMap fun tap =>
    (List.range extents.perGroup).map fun channel => (tap, channel) := by
  unfold reads readsBy taps convTaps
  rw [List.flatMap_assoc]
  refine List.flatMap_congr fun kernelRow _ => ?_
  cases row : tapCoordinate? pixel.row kernelRow extents.settings.stride.1
      extents.settings.dilation.1 extents.settings.padding.top extents.image.height with
  | none => simp [tapAt?_eq, row]
  | some row =>
      dsimp only
      rw [List.filterMap_eq_flatMap_toList, List.flatMap_assoc]
      refine List.flatMap_congr fun kernelColumn _ => ?_
      rw [tapAt?_eq]
      cases column : tapCoordinate? pixel.column kernelColumn extents.settings.stride.2
          extents.settings.dilation.2 extents.settings.padding.left extents.image.width with
      | none => simp [row]
      | some column => simp [row]

theorem mem_reads : read ∈ extents.reads pixel ↔
    read.1 ∈ extents.taps pixel ∧ read.2 < extents.perGroup := by
  rw [reads_eq, List.mem_flatMap]
  constructor
  · rintro ⟨tap, member, listed⟩
    obtain ⟨channel, bound, rfl⟩ := List.mem_map.1 listed
    exact ⟨member, List.mem_range.1 bound⟩
  · rintro ⟨member, bound⟩
    exact ⟨read.1, member, List.mem_map.2 ⟨read.2, List.mem_range.2 bound, rfl⟩⟩

theorem weightPlace_lt (inside : extents.outImage.Holds pixel)
    (member : read ∈ extents.reads pixel) :
    extents.weightPlace pixel.channel read < extents.weightCount := by
  obtain ⟨tap, bound⟩ := mem_reads.1 member
  obtain ⟨⟨row, column⟩, _⟩ := inside_of_convTaps tap
  exact weight_lt inside.2.1 bound row column

end ConvExtents

end TensorRuntime
