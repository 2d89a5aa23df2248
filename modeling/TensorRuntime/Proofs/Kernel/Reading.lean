import TensorRuntime.Image
import TensorRuntime.Kernel.Arguments
import TensorRuntime.Proofs.Attempt

/-!
Reads that stay inside their arrays. Inside its bounds a read succeeds, so a loop that
only reads inside is the plain loop over the elements.
-/

namespace TensorRuntime

open Attempt

def elementAt (values : Array Single) (index : Nat) : Single := values.getD index 0

def arrayOf {α : Type} (count : Nat) (value : Nat → α) : Array α :=
  ((List.range count).map value).toArray

theorem size_of_arrayOf {α : Type} (count : Nat) (value : Nat → α) :
    (arrayOf count value).size = count := by
  simp [arrayOf]

theorem arrayOf_getElem? {α : Type} {count index : Nat} (value : Nat → α)
    (bound : index < count) : (arrayOf count value)[index]? = some (value index) := by
  simp [arrayOf, bound]

theorem arrayOf_congr {α : Type} {count : Nat} {value value' : Nat → α}
    (same : ∀ index < count, value index = value' index) :
    arrayOf count value = arrayOf count value' := by
  unfold arrayOf
  congr 1
  apply List.map_congr_left
  intro index member
  exact same index (List.mem_range.1 member)

theorem arrayOf_elementAt (values : Array Single) :
    arrayOf values.size (elementAt values) = values := by
  apply Array.ext
  · exact size_of_arrayOf _ _
  · intro index bound inside
    simp [arrayOf, elementAt, inside]

theorem arrayOf_map {α β : Type} (count : Nat) (value : Nat → α) (change : α → β) :
    (arrayOf count value).map change = arrayOf count fun index => change (value index) := by
  simp [arrayOf, Function.comp_def]

theorem readAt_arrayOf {α : Type} {count index : Nat} (value : Nat → α) (bound : index < count) :
    readAt (arrayOf count value) index = .ok (value index) :=
  readAt_eq_ok.2 (arrayOf_getElem? value bound)

section Fallback

variable {α : Type} {values : Array α} (fallback : α)

theorem readAt_getD {index : Nat} (bound : index < values.size) :
    readAt values index = .ok (values.getD index fallback) := by
  rw [readAt_of_lt bound]
  simp [bound, pure_eq_ok]

theorem readRun_getD {start count : Nat} (bound : start + count ≤ values.size) :
    readRun values start count =
      .ok ((List.range count).map fun place => values.getD (start + place) fallback) := by
  unfold readRun
  rw [if_pos bound, pure_eq_ok]
  apply List.ext_getElem
  · simp
    omega
  · intro place first second
    have inside : start + place < values.size := by
      simp at second
      omega
    simp [inside]

end Fallback

theorem readAt_elementAt {values : Array Single} {index : Nat} (bound : index < values.size) :
    readAt values index = .ok (elementAt values index) := readAt_getD 0 bound

theorem readRun_elementAt {values : Array Single} {start count : Nat}
    (bound : start + count ≤ values.size) :
    readRun values start count =
      .ok ((List.range count).map fun place => elementAt values (start + place)) :=
  readRun_getD 0 bound

theorem mapM_of_ok {ε α β : Type} {items : List α} {function : α → Except ε β} {value : α → β}
    (each : ∀ item ∈ items, function item = .ok (value item)) :
    items.mapM function = .ok (items.map value) := by
  rw [mapM_eq_ok, List.map_map]
  exact List.map_congr_left each

theorem tabulate_of_ok {α : Type} {count : Nat} {element : Nat → Attempt α} {value : Nat → α}
    (each : ∀ index < count, element index = .ok (value index)) :
    tabulate count element = .ok (arrayOf count value) := by
  unfold tabulate
  rw [mapM_of_ok fun index member => each index (List.mem_range.1 member)]
  rfl

theorem foldlM_of_ok {ε α β : Type} {items : List α} {step : β → α → Except ε β}
    {next : β → α → β} (each : ∀ item ∈ items, ∀ value, step value item = .ok (next value item))
    (start : β) : items.foldlM step start = .ok (items.foldl next start) := by
  induction items generalizing start with
  | nil => rfl
  | cons item rest ih =>
      rw [List.foldlM_cons, each item (by simp), List.foldl_cons]
      exact ih (fun later member => each later (by simp [member])) _

theorem zipIdx_map_range {α : Type} (count : Nat) (value : Nat → α) :
    ((List.range count).map value).zipIdx =
      (List.range count).map fun index => (value index, index) := by
  apply List.ext_getElem
  · simp
  · intro index first second
    simp

theorem nonzero_of_pos {divisor : Nat} (positive : 0 < divisor) : nonzero divisor = .ok () := by
  unfold nonzero
  rw [if_neg (by omega)]
  rfl

section Places

variable {outer inner place rest : Nat}

theorem place_lt (placeBound : place < outer) (restBound : rest < inner) :
    place * inner + rest < outer * inner :=
  calc place * inner + rest < place * inner + inner := by omega
    _ = (place + 1) * inner := by rw [Nat.add_one_mul]
    _ ≤ outer * inner := Nat.mul_le_mul_right inner placeBound

theorem place_div (restBound : rest < inner) : (place * inner + rest) / inner = place := by
  rw [Nat.add_comm, Nat.add_mul_div_right _ _ (by omega), Nat.div_eq_of_lt restBound,
    Nat.zero_add]

theorem place_mod (restBound : rest < inner) : (place * inner + rest) % inner = rest := by
  rw [Nat.add_comm, Nat.add_mul_mod_self_right, Nat.mod_eq_of_lt restBound]

theorem packed_run_le {outChannels perGroup height width outChannel row column : Nat}
    (outBound : outChannel < outChannels) (rowBound : row < height) (columnBound : column < width) :
    ((outChannel * height + row) * width + column) * perGroup + perGroup ≤
      outChannels * perGroup * height * width := by
  rw [← Nat.add_one_mul]
  calc _ ≤ outChannels * height * width * perGroup :=
        Nat.mul_le_mul_right _ (place_lt (place_lt outBound rowBound) columnBound)
    _ = outChannels * perGroup * height * width := by ac_rfl

end Places

theorem repack_getD {α : Type} (values : Array α) (fallback : α) (source : Nat → Nat)
    (inside : ∀ index < values.size, source index < values.size) :
    repack values fallback values.size source =
      .ok (arrayOf values.size fun index => values.getD (source index) fallback) := by
  unfold repack
  rw [if_neg (Nat.lt_irrefl _)]
  apply tabulate_of_ok
  intro index bound
  rw [if_pos bound]
  exact readAt_getD fallback (inside index bound)

theorem repack_elementAt (values : Array Single) (source : Nat → Nat)
    (inside : ∀ index < values.size, source index < values.size) :
    repack values 0 values.size source =
      .ok (arrayOf values.size fun index => elementAt values (source index)) :=
  repack_getD values 0 source inside

theorem getD_arrayOf {α : Type} {count index : Nat} (value : Nat → α) (fallback : α)
    (bound : index < count) : (arrayOf count value).getD index fallback = value index := by
  have found := arrayOf_getElem? value bound
  simp [found]

theorem elementAt_arrayOf {count index : Nat} (value : Nat → Single) (bound : index < count) :
    elementAt (arrayOf count value) index = value index := getD_arrayOf value 0 bound

namespace ImageDims

def Holds (image : ImageDims) (pixel : Pixel) : Prop :=
  pixel.batch < image.batch ∧ pixel.channel < image.channels ∧ pixel.row < image.height ∧
    pixel.column < image.width

def pixelOf (image : ImageDims) (position : Nat) : Pixel :=
  ⟨position / image.channels / image.width / image.height, position % image.channels,
    position / image.channels / image.width % image.height,
    position / image.channels % image.width⟩

variable {image : ImageDims}

theorem index_of_channelsLast (last : image.channelsLast = true) (pixel : Pixel) :
    image.index pixel = ((pixel.batch * image.height + pixel.row) * image.width + pixel.column) *
      image.channels + pixel.channel := by
  rw [index, if_pos last]

theorem index_lt (last : image.channelsLast = true) {pixel : Pixel} (inside : image.Holds pixel) :
    image.index pixel < image.batch * image.height * image.width * image.channels := by
  obtain ⟨batch, channel, row, column⟩ := inside
  rw [index_of_channelsLast last]
  exact place_lt (place_lt (place_lt batch row) column) channel

theorem run_le (last : image.channelsLast = true) {batch row column : Nat}
    (batchBound : batch < image.batch) (rowBound : row < image.height)
    (columnBound : column < image.width) :
    image.index ⟨batch, 0, row, column⟩ + image.channels ≤
      image.batch * image.height * image.width * image.channels := by
  have inside := place_lt (place_lt batchBound rowBound) columnBound
  rw [index_of_channelsLast last, Nat.add_zero, ← Nat.add_one_mul]
  exact Nat.mul_le_mul_right _ inside

theorem index_channel (last : image.channelsLast = true) (batch channel row column : Nat) :
    image.index ⟨batch, channel, row, column⟩ =
      image.index ⟨batch, 0, row, column⟩ + channel := by
  rw [index_of_channelsLast last, index_of_channelsLast last, Nat.add_zero]

theorem pixelAt_eq_ok (last : image.channelsLast = true) (channels : 0 < image.channels)
    (height : 0 < image.height) (width : 0 < image.width) (position : Nat) :
    image.pixelAt position = .ok (image.pixelOf position) := by
  unfold pixelAt
  rw [if_neg (by omega), if_pos last]
  rfl

theorem pixelOf_holds (channels : 0 < image.channels) (height : 0 < image.height)
    (width : 0 < image.width) {position : Nat}
    (bound : position < image.batch * image.height * image.width * image.channels) :
    image.Holds (image.pixelOf position) := by
  refine ⟨?_, Nat.mod_lt _ channels, Nat.mod_lt _ height, Nat.mod_lt _ width⟩
  have pixels : position / image.channels < image.batch * image.height * image.width :=
    (Nat.div_lt_iff_lt_mul channels).2 bound
  have rows : position / image.channels / image.width < image.batch * image.height :=
    (Nat.div_lt_iff_lt_mul width).2 pixels
  exact (Nat.div_lt_iff_lt_mul height).2 rows

theorem pixelOf_channel {pixel channel : Nat} (bound : channel < image.channels) :
    image.pixelOf (pixel * image.channels + channel) =
      ⟨pixel / (image.width * image.height), channel, pixel / image.width % image.height,
        pixel % image.width⟩ := by
  unfold pixelOf
  rw [place_div bound, place_mod bound, Nat.div_div_eq_div_mul]

end ImageDims

end TensorRuntime
