import TensorRuntime.Proofs.Kernel.Rows
import TensorRuntime.Proofs.Windows

/-!
Maximum pooling of images that have their channels last. The element by element loop
and the row by row loop take maxima over the same window in the same order.
-/

namespace TensorRuntime

open Attempt

structure MaxPooling where
  params : PoolParams
  image : ImageDims
  values : Array Single
  mode : params.mode = .max
  channelsLast : image.channelsLast = true
  valuesSize : values.size = image.batch * image.height * image.width * image.channels

theorem inside_of_spans {params : PoolParams} {image : ImageDims} {outRow outColumn : Nat}
    {position : Nat × Nat}
    (member : position ∈ windowPositions (params.spans image outRow outColumn).1
      (params.spans image outRow outColumn).2) :
    position.1 < image.height ∧ position.2 < image.width := by
  unfold windowPositions at member
  rw [List.mem_flatMap] at member
  obtain ⟨row, rowMember, member⟩ := member
  obtain ⟨column, columnMember, rfl⟩ := List.mem_map.1 member
  exact ⟨inside_of_windowSpan rowMember, inside_of_windowSpan columnMember⟩

namespace MaxPooling

variable (pool : MaxPooling)

def rows (outRow outColumn : Nat) : WindowSpan :=
  (pool.params.spans pool.image outRow outColumn).1

def columns (outRow outColumn : Nat) : WindowSpan :=
  (pool.params.spans pool.image outRow outColumn).2

def window (outRow outColumn : Nat) : List (Nat × Nat) :=
  windowPositions (pool.rows outRow outColumn) (pool.columns outRow outColumn)

def held (batch channel : Nat) (position : Nat × Nat) : Single :=
  elementAt pool.values (pool.image.index ⟨batch, channel, position.1, position.2⟩)

def element (pixel : Pixel) : Single :=
  if (pool.rows pixel.row pixel.column).length * (pool.columns pixel.row pixel.column).length = 0
  then 0
  else (pool.window pixel.row pixel.column).foldl (fun value position =>
    Single.maximum value (pool.held pixel.batch pixel.channel position)) Single.negativeInfinity

variable {pool}

theorem poolElement_eq {pixel : Pixel} (batch : pixel.batch < pool.image.batch)
    (channel : pixel.channel < pool.image.channels) :
    poolElement pool.params pool.values pool.image pixel = .ok (pool.element pixel) := by
  have covered : (pool.window pixel.row pixel.column).mapM (fun position =>
      readAt pool.values
        (pool.image.index ⟨pixel.batch, pixel.channel, position.1, position.2⟩)) =
      .ok ((pool.window pixel.row pixel.column).map
        (pool.held pixel.batch pixel.channel)) := by
    apply mapM_of_ok
    intro position member
    obtain ⟨row, column⟩ := @inside_of_spans pool.params _ _ _ _ member
    apply readAt_elementAt
    rw [pool.valuesSize]
    exact ImageDims.index_lt pool.channelsLast ⟨batch, channel, row, column⟩
  unfold poolElement
  dsimp only
  refine bind_eq_ok.2 ⟨_, covered, ?_⟩
  rw [pool.mode, List.foldl_map]
  rfl

theorem lanePoolRow_eq {lanes : Nat} (wide : 0 < lanes) {batch outRow outColumn : Nat}
    (batchBound : batch < pool.image.batch) :
    lanePoolRow lanes pool.params pool.values pool.image pool.image.channels batch outRow
      outColumn =
        .ok (arrayOf pool.image.channels fun channel =>
          pool.element ⟨batch, channel, outRow, outColumn⟩) := by
  have step : ∀ position ∈ pool.window outRow outColumn, ∀ pooled : Nat → Single, (do
      let inputs ← readRun pool.values (pool.image.index ⟨batch, 0, position.1, position.2⟩)
        pool.image.channels
      updateRow lanes (arrayOf pool.image.channels pooled) [inputs.toArray] fun value others =>
        Single.maximum value (others.headD 0)) =
      .ok (arrayOf pool.image.channels fun channel =>
        Single.maximum (pooled channel) (pool.held batch channel position)) := by
    intro position member pooled
    obtain ⟨row, column⟩ := @inside_of_spans pool.params _ _ _ _ member
    have fits := ImageDims.run_le pool.channelsLast batchBound row column
    rw [← pool.valuesSize] at fits
    rw [readRun_elementAt fits]
    refine (updateRow_arrayOf wide pooled [fun channel => elementAt pool.values
      (pool.image.index ⟨batch, 0, position.1, position.2⟩ + channel)] _).trans
      (congrArg Except.ok (arrayOf_congr fun channel _ => ?_))
    unfold held
    rw [ImageDims.index_channel pool.channelsLast _ channel]
    rfl
  have start : Array.replicate pool.image.channels Single.negativeInfinity =
      arrayOf pool.image.channels fun _ => Single.negativeInfinity := by
    apply Array.ext
    · simp [size_of_arrayOf]
    · intro index first second
      simp [arrayOf]
  unfold lanePoolRow
  simp only [pool.mode]
  rw [start]
  refine bind_eq_ok.2 ⟨_, foldlM_rows (fun channel value position =>
    Single.maximum value (pool.held batch channel position)) step _, ?_⟩
  rw [pure_eq_ok]
  by_cases empty : (pool.rows outRow outColumn).length * (pool.columns outRow outColumn).length = 0
  · refine (if_pos empty).trans ((arrayOf_map _ _ _).trans (arrayOf_congr fun channel _ => ?_))
    exact (if_pos empty).symm
  · refine (if_neg empty).trans (arrayOf_congr fun channel _ => ?_)
    exact (if_neg empty).symm

end MaxPooling

end TensorRuntime
