import TensorRuntime.Proofs.Kernel.ImageRules
import TensorRuntime.Proofs.Kernel.Safety.Accelerator
import TensorRuntime.Proofs.Kernel.Safety.Pooling
import TensorRuntime.Proofs.Refusals

/-!
Kernels for images lay their output out in the order of axes of their input. Whatever the
output is tagged with, each element is at the position of its pixel in that order.
-/

namespace TensorRuntime

open Attempt

section Positions

variable {image : ImageDims} {pixel : Pixel}

theorem ImageDims.channelsLast_of_layout {dims : List Nat} {image' : ImageDims}
    (found : ofDims dims image.layout = .ok image') :
    image'.channelsLast = image.channelsLast := by
  unfold ofDims layout at found
  split at found
  · cases order : image.channelsLast <;> rw [order] at found <;> cases found <;> rfl
  · cases found

theorem ImageDims.pixelAt_index (inside : image.Holds pixel) :
    image.pixelAt (image.index pixel) = .ok pixel := by
  obtain ⟨batch, channel, row, column⟩ := inside
  unfold pixelAt index
  rw [if_neg (by omega)]
  split
  · dsimp only
    rw [place_div channel, place_mod channel, place_div column, place_mod column, place_div row,
      place_mod row]
    rfl
  · dsimp only
    rw [place_div column, place_mod column, place_div row, place_mod row, place_div channel,
      place_mod channel]
    rfl

theorem ImageDims.index_of_pixelAt {position : Nat} (found : image.pixelAt position = .ok pixel) :
    image.index pixel = position := by
  unfold pixelAt at found
  unfold index
  split at found
  · cases found
  · split at found
    · rename_i last
      cases found
      rw [if_pos last]
      dsimp only
      rw [Nat.div_add_mod', Nat.div_add_mod', Nat.div_add_mod']
    · rename_i first
      cases found
      rw [if_neg first]
      dsimp only
      rw [Nat.div_add_mod', Nat.div_add_mod', Nat.div_add_mod']

theorem ImageDims.split_index (last : image.channelsLast = true) (inside : image.Holds pixel) :
    image.index pixel % image.channels = pixel.channel ∧
      (⟨image.index pixel / image.channels / (image.width * image.height), pixel.channel,
        image.index pixel / image.channels / image.width % image.height,
        image.index pixel / image.channels % image.width⟩ : Pixel) = pixel := by
  obtain ⟨_, channel, row, column⟩ := inside
  rw [index_of_channelsLast last, place_mod channel, place_div channel,
    ← Nat.div_div_eq_div_mul, place_div column, place_mod column, place_div row, place_mod row]
  exact ⟨rfl, rfl⟩

theorem at_pixel {α : Type} {count : Nat} {elementOf : Pixel → Attempt α} {values : Array α}
    (computed : tabulate count (fun index => do elementOf (← image.pixelAt index)) = .ok values)
    (inside : image.Holds pixel) {value : α} (found : values[image.index pixel]? = some value) :
    elementOf pixel = .ok value := by
  obtain ⟨bound, rfl⟩ := Array.getElem?_eq_some_iff.1 found
  have element := (tabulate_eq_ok.1 computed).2 _ bound
  rwa [ImageDims.pixelAt_index inside] at element

/-- A loop over positions ends where every pixel of the image has a value, and puts each value where
its pixel is stored. -/
theorem ImageDims.exists_tabulated {α : Type} {elementOf : Pixel → Attempt α} {value : Pixel → α}
    (each : ∀ pixel, image.Holds pixel → elementOf pixel = .ok (value pixel)) :
    ∃ written,
      tabulate image.count (fun index => do elementOf (← image.pixelAt index)) = .ok written ∧
      written.size = image.count ∧
      ∀ pixel, image.Holds pixel → written[image.index pixel]? = some (value pixel) := by
  obtain ⟨written, done⟩ : ∃ written,
      tabulate image.count (fun index => do elementOf (← image.pixelAt index)) = .ok written := by
    refine exists_tabulate_of_each fun index bound => ?_
    obtain ⟨pixel, placed, inside⟩ := pixelAt_inside bound
    exact ⟨_, bind_eq_ok.2 ⟨pixel, placed, each pixel inside⟩⟩
  have size : written.size = image.count := (tabulate_eq_ok.1 done).1
  refine ⟨written, done, size, fun pixel inside => ?_⟩
  have present := Array.getElem?_eq_getElem (size ▸ index_lt_count inside)
  have computed := at_pixel done inside present
  rw [each pixel inside] at computed
  rw [present, Except.ok.inj computed]

end Positions

section Rows

theorem concat_start (rows : List Row) {start : Array Single} {position : Nat}
    (bound : position < start.size) :
    (rows.foldl (· ++ ·) start)[position]? = start[position]? := by
  induction rows generalizing start with
  | nil => rfl
  | cons row rest ih =>
      rw [List.foldl_cons, ih (by simp; omega), Array.getElem?_append_left bound]

theorem concat_getElem? {width : Nat} {rows : List Row} (widths : ∀ row ∈ rows, row.size = width)
    (start : Array Single) (place : Nat) {rest : Nat} (bound : rest < width) :
    (rows.foldl (· ++ ·) start)[start.size + (place * width + rest)]? =
      rows[place]?.bind fun row => row[rest]? := by
  induction rows generalizing start place with
  | nil => simp
  | cons row others ih =>
      have wide : row.size = width := widths row (by simp)
      rw [List.foldl_cons]
      cases place with
      | zero =>
          rw [concat_start others (by simp; omega), Array.getElem?_append_right (by omega)]
          simp
      | succ place =>
          have later : (others.foldl (· ++ ·) (start ++ row))[(start ++ row).size +
              (place * width + rest)]? = others[place]?.bind fun row => row[rest]? :=
            ih (fun other member => widths other (by simp [member])) (start ++ row) place
          have shifted : start.size + ((place + 1) * width + rest) =
              (start ++ row).size + (place * width + rest) := by
            rw [Array.size_append, wide, Nat.add_one_mul]
            omega
          rw [List.getElem?_cons_succ, ← later, shifted]

theorem whole_rows {width places : Nat} {image : ImageDims} {old values : Array Single}
    {rowAt : Nat → Nat → Nat → Nat → Attempt Row}
    (done : tabulateRows width image old rowAt = .ok values) (wide : 0 < width)
    (whole : old.size = places * width) :
    ∃ rows : List Row, values = rows.foldl (· ++ ·) #[] ∧ ∀ place own, rows[place]? = some own →
      rowAt width (place / (image.width * image.height)) (place / image.width % image.height)
        (place % image.width) = .ok own := by
  unfold tabulateRows at done
  simp only [bind_eq_ok, pure_eq_ok, mapM_eq_ok] at done
  obtain ⟨_, _, rows, computed, rfl⟩ := done
  have full : ∀ place < places, min width (old.size - place * width) = width := by
    intro place bound
    have fits := Nat.mul_le_mul_right width (show place + 1 ≤ places from bound)
    rw [Nat.add_one_mul, ← whole] at fits
    omega
  have count : (old.size + width - 1) / width = places := by
    rw [whole, Nat.add_sub_assoc (by omega), Nat.add_comm, Nat.add_mul_div_right _ _ wide,
      Nat.div_eq_of_lt (by omega), Nat.zero_add]
  rw [count] at computed
  refine ⟨rows, rfl, fun place own present => ?_⟩
  have here := congrArg (fun items => items[place]?) computed
  simp only [List.getElem?_map, present, Option.map_some] at here
  obtain ⟨listed, ranged, ran⟩ := Option.map_eq_some_iff.1 here
  obtain ⟨bound, same⟩ := List.getElem?_eq_some_iff.1 ranged
  rw [List.length_range] at bound
  rw [List.getElem_range] at same
  subst same
  simp only [bind_eq_ok, full place bound] at ran
  obtain ⟨_, _, _, _, ran⟩ := ran
  exact ran

theorem row_at_pixel {image : ImageDims} {old values : Array Single}
    {rowAt : Nat → Nat → Nat → Nat → Attempt Row}
    (done : tabulateRows image.channels image old rowAt = .ok values)
    (last : image.channelsLast = true) (size : old.size = image.count)
    (sizes : ∀ {size batch row column own},
      rowAt size batch row column = .ok own → own.size = size) {pixel : Pixel}
    (inside : image.Holds pixel) {value : Single}
    (found : values[image.index pixel]? = some value) :
    ∃ row, rowAt image.channels pixel.batch pixel.row pixel.column = .ok row ∧
      row[pixel.channel]? = some value := by
  have whole : old.size = image.batch * image.height * image.width * image.channels := by
    rw [size, ImageDims.count]
    ac_rfl
  obtain ⟨batch, channel, row, column⟩ := inside
  obtain ⟨rows, rfl, computed⟩ := whole_rows done (by omega) whole
  have widths : ∀ own ∈ rows, own.size = image.channels := by
    intro own member
    obtain ⟨place, present⟩ := List.mem_iff_getElem?.1 member
    exact sizes (computed place own present)
  rw [ImageDims.index_of_channelsLast last] at found
  have cut := concat_getElem? widths #[]
    ((pixel.batch * image.height + pixel.row) * image.width + pixel.column) channel
  rw [Array.size_empty, Nat.zero_add, found] at cut
  obtain ⟨own, present, read⟩ := Option.bind_eq_some_iff.1 cut.symm
  have ran := computed _ own present
  rw [← Nat.div_div_eq_div_mul, place_div column, place_mod column, place_div row,
    place_mod row] at ran
  exact ⟨own, ran, read⟩

end Rows

section Written

variable {output written : Tensor} {image : ImageDims} {rule : Pixel → Attempt Element}

theorem ElementType.integers_of_ofIntegers? {elementType : ElementType} {values : Array Int}
    {buffer : Buffer} (built : Buffer.ofIntegers? elementType values = some buffer) :
    buffer.integers? = some (values.map elementType.keep) := by
  cases elementType <;> simp only [Buffer.ofIntegers?, Option.some.injEq, reduceCtorEq] at built
  all_goals
    subst built
    simp [Buffer.integers?, keep, Function.comp_def]

theorem ElementType.keep_of_range {elementType : ElementType} {range : Int × Int} {value : Int}
    (ranged : elementType.intRange? = some range) (low : range.1 ≤ value)
    (high : value ≤ range.2) : elementType.keep value = value := by
  cases elementType <;> cases ranged
  · exact Int8.toInt_ofInt_of_le (by omega) (by omega)
  · unfold keep
    dsimp only at low high ⊢
    rw [UInt8.toNat_ofNat_of_lt' (by simp [UInt8.size]; omega)]
    omega
  · exact Int16.toInt_ofInt_of_le (by omega) (by omega)
  · exact Int32.toInt_ofInt_of_le (by omega) (by omega)

theorem Buffer.exists_ofRange {elementType : ElementType} {range : Int × Int}
    (ranged : elementType.intRange? = some range) {values : Array Int}
    (inRange : ∀ value ∈ values, range.1 ≤ value ∧ value ≤ range.2) :
    ∃ buffer, ofIntegers? elementType values = some buffer ∧ buffer.integers? = some values := by
  have integer := ElementType.isInteger_of_intRange? ranged
  obtain ⟨buffer, built⟩ := exists_ofIntegers integer values
  have kept : values.map elementType.keep = values.map id :=
    Array.map_congr_left fun value member =>
      ElementType.keep_of_range ranged (inRange value member).1 (inRange value member).2
  refine ⟨buffer, built, ?_⟩
  rw [ElementType.integers_of_ofIntegers? built, kept, Array.map_id]

theorem intRange?_of_integer {elementType : ElementType}
    (integer : elementType.isInteger = true) :
    elementType.intRange? = some (storedRange elementType) := by
  cases elementType with
  | f32 | f16 | bool => cases integer
  | i8 | u8 | i16 | i32 => rfl

theorem Buffer.exists_ofQuantized {elementType : ElementType}
    (integer : elementType.isInteger = true) {values : Array Int}
    (each : ∀ stored ∈ values, ∃ (affine : Affine) (value : Single),
      stored = affine.quantize (storedRange elementType) value) :
    ∃ buffer, ofIntegers? elementType values = some buffer ∧ buffer.integers? = some values := by
  refine exists_ofRange (intRange?_of_integer integer) fun stored member => ?_
  obtain ⟨affine, value, rfl⟩ := each stored member
  have zero : (storedRange elementType).1 ≤ 0 ∧ 0 ≤ (storedRange elementType).2 := by
    cases elementType <;> decide
  exact Affine.quantize_bounds zero.1 zero.2 value

namespace Tensor

theorem elementAt?_stored {tensor : Tensor} {stored : Array Int}
    (held : tensor.buffer.integers? = some stored) (position : Nat) :
    tensor.elementAt? position = stored[position]?.map .stored := by
  unfold elementAt?
  cases buffer : tensor.buffer with
  | f32 | f16 | bool =>
      rw [buffer] at held
      cases held
  | i8 | u8 | i16 | i32 =>
      rw [buffer] at held
      dsimp only
      rw [held]
      rfl

theorem withStored_eq {values : Array Int} {buffer : Buffer}
    (built : Buffer.ofIntegers? output.elementType values = some buffer) :
    output.withStored values = .ok { output with buffer } := by
  unfold withStored
  rw [built]
  rfl

theorem laidOut_withSingles {values : Array Single} (size : values.size = image.count)
    (each : ∀ pixel, image.Holds pixel → ∀ value, values[image.index pixel]? = some value →
      rule pixel = .ok (.single value)) : (output.withSingles values).LaidOut image rule := by
  intro pixel inside
  have present := Array.getElem?_eq_getElem (size ▸ ImageDims.index_lt_count inside)
  refine ⟨_, each pixel inside _ present, ?_⟩
  change values[image.index pixel]?.map Element.single = _
  rw [present]
  rfl

theorem laidOut_of_rows {old values : Array Single} {rowAt : Nat → Nat → Nat → Nat → Attempt Row}
    (done : tabulateRows image.channels image old rowAt = .ok values)
    (last : image.channelsLast = true) (size : old.size = image.count)
    (sizes : ∀ {size batch row column own},
      rowAt size batch row column = .ok own → own.size = size)
    (each : ∀ pixel row value,
      rowAt image.channels pixel.batch pixel.row pixel.column = .ok row →
      readAt row pixel.channel = .ok value → rule pixel = .ok (.single value)) :
    (output.withSingles values).LaidOut image rule := by
  refine laidOut_withSingles ((size_of_tabulateRows sizes done).trans size)
    fun pixel inside value present => ?_
  obtain ⟨row, computed, placed⟩ := row_at_pixel done last size sizes inside present
  exact each pixel row value computed (readAt_eq_ok.2 placed)

theorem laidOut_withStored {values : Array Int} (made : output.withStored values = .ok written)
    (size : values.size = image.count)
    (each : ∀ pixel, image.Holds pixel → ∀ value, values[image.index pixel]? = some value →
      rule pixel = .ok (.stored (output.elementType.keep value))) :
    written.LaidOut image rule := by
  intro pixel inside
  have present := Array.getElem?_eq_getElem (size ▸ ImageDims.index_lt_count inside)
  refine ⟨_, each pixel inside _ present, ?_⟩
  unfold withStored at made
  split at made
  · rename_i buffer built
    cases made
    rw [elementAt?_stored (ElementType.integers_of_ofIntegers? built), Array.getElem?_map, present]
    rfl
  · cases made

theorem LaidOut.read_as {tensor : Tensor} (laid : tensor.LaidOut image rule) {own : ImageDims}
    (count : own.count = image.count) {pixel : Pixel} (inside : own.Holds pixel) :
    ∃ place element, image.pixelAt (own.index pixel) = .ok place ∧ rule place = .ok element ∧
      tensor.elementAt? (own.index pixel) = some element ∧ (own = image → place = pixel) := by
  obtain ⟨place, found, within⟩ :=
    ImageDims.pixelAt_inside (count ▸ ImageDims.index_lt_count inside)
  obtain ⟨element, computed, present⟩ := laid place within
  rw [ImageDims.index_of_pixelAt found] at present
  refine ⟨place, element, found, computed, present, fun same => ?_⟩
  subst same
  cases found.symm.trans (ImageDims.pixelAt_index inside)
  rfl

def Follows (written : Tensor) (inputs : List Tensor) (output : Tensor)
    (rule : Pixel → Attempt Element) : Prop :=
  ∃ input others image outImage, inputs = input :: others ∧
    ImageDims.ofTensor input = .ok image ∧
    ImageDims.ofDims output.dims image.layout = .ok outImage ∧ written.LaidOut outImage rule

end Tensor

end Written

section Bodies

variable {hook : Precompute} {params : Params} {inputs : List Tensor} {output written : Tensor}
  {derived : Option Derived}

theorem convBody_follows (call : PreparedCall hook params inputs output derived)
    (done : convBody ⟨params, inputs, [output], derived⟩ = .ok written) :
    written.Follows inputs output (convRule params inputs output.quantization derived) := by
  cases params with
  | conv2d settings =>
      obtain ⟨input, weights, rest, extents, rfl, rfl, describes⟩ := call.conv
      have sized : output.Sized := call.sized output (by simp)
      unfold convBody at done
      simp only [bind_eq_ok, lift_eq_ok, map_eq_ok] at done
      obtain ⟨_, found, _, found', bias, biasRead, _, read, packed, packedRead, values, valuesRead,
        _, taken, _, outRead, ⟨_, old⟩, slots, _, _, results, computed, rfl⟩ := done
      cases found
      cases found'
      cases taken
      cases describes.image.symm.trans read
      cases describes.outDims.symm.trans outRead
      obtain ⟨own, held⟩ := Call.singleOutput_eq_ok.1 slots
      cases own
      refine ⟨input, _, extents.image, extents.outImage, rfl, describes.image, describes.outDims,
        Tensor.laidOut_withSingles ?_ fun pixel inside value present => ?_⟩
      · rw [size_of_tabulate computed, sized.singles held, describes.output_count]
      · have element := at_pixel computed inside present
        unfold convRule
        simp only [bind_eq_ok, lift_eq_ok, map_eq_ok]
        refine ⟨bias, biasRead, _, read, packed, packedRead, values, valuesRead, value, ?_, rfl⟩
        rw [describes.kernel]
        exact element
  | _ => cases done

theorem poolBody_follows (call : PreparedCall hook params inputs output derived)
    (done : poolBody ⟨params, inputs, [output], derived⟩ = .ok written) :
    written.Follows inputs output (poolRule params inputs output.quantization derived) := by
  cases params with
  | pool2d settings =>
      obtain ⟨input, others, image, outImage, rfl, images⟩ := call.poolImages
      have sized : output.Sized := call.sized output (by simp)
      unfold poolBody at done
      simp only [bind_eq_ok, lift_eq_ok, map_eq_ok] at done
      obtain ⟨_, found, _, read, _, taken, _, outRead, values, valuesRead, ⟨_, old⟩, slots, results,
        computed, rfl⟩ := done
      cases found
      cases taken
      cases images.read.symm.trans read
      cases images.written.symm.trans outRead
      obtain ⟨own, held⟩ := Call.singleOutput_eq_ok.1 slots
      cases own
      refine ⟨input, others, image, outImage, rfl, images.read, images.written,
        Tensor.laidOut_withSingles ?_ fun pixel inside value present => ?_⟩
      · rw [size_of_tabulate computed, sized.singles held, images.output_count]
      · unfold poolRule
        simp only [bind_eq_ok, lift_eq_ok, map_eq_ok]
        exact ⟨_, read, values, valuesRead, value, at_pixel computed inside present, rfl⟩
  | _ => cases done

theorem storedPoolBody_follows {elementType : ElementType}
    (call : PreparedCall hook params inputs output derived)
    (done : storedPoolBody elementType ⟨params, inputs, [output], derived⟩ = .ok written) :
    written.Follows inputs output
      (storedPoolRule elementType params inputs output.quantization derived) := by
  cases params with
  | pool2d settings =>
      obtain ⟨input, others, image, outImage, rfl, images⟩ := call.poolImages
      have sized : output.Sized := call.sized output (by simp)
      have sameType := call.elementType input others rfl
      unfold storedPoolBody at done
      simp only [guard_eq_ok, bind_eq_ok, lift_eq_ok] at done
      obtain ⟨_, _, found, affine, affineRead, _, read, _, taken, outAffine, outAffineRead, _,
        outRead, stored, storedRead, slots, counted, results, computed, made⟩ := done
      cases found
      cases taken
      cases images.read.symm.trans read
      cases images.written.symm.trans outRead
      obtain ⟨old, held, rfl⟩ := storedSlots_eq_ok counted
      have own : output.elementType = elementType :=
        sameType.trans (Tensor.storedFor_eq_ok.1 storedRead).1
      refine ⟨input, others, image, outImage, rfl, images.read, images.written,
        Tensor.laidOut_withStored made ?_ fun pixel inside value present => ?_⟩
      · rw [size_of_tabulate computed, sized.stored held, images.output_count]
      · rw [Tensor.quantization_of_affineFor outAffineRead, own]
        unfold storedPoolRule
        simp only [bind_eq_ok, lift_eq_ok]
        exact ⟨affine, affineRead, _, read, stored, storedRead, value,
          at_pixel computed inside present, rfl⟩
  | _ => cases done

theorem storedConvBody_follows [Host] (call : PreparedCall hook params inputs output derived)
    (done : storedConvBody ⟨params, inputs, [output], derived⟩ = .ok written) :
    written.Follows inputs output (storedConvRule params inputs output.quantization derived) := by
  cases params with
  | conv2d settings =>
      obtain ⟨input, weights, rest, extents, rfl, rfl, describes⟩ := call.conv
      have sized : output.Sized := call.sized output (by simp)
      have sameType := call.elementType input _ rfl
      unfold storedConvBody at done
      simp only [bind_eq_ok, lift_eq_ok] at done
      obtain ⟨_, found, _, found', affine, affineRead, record, recordRead, bias, biasRead, _, read,
        done⟩ := done
      cases found
      cases found'
      rw [describes.kernel] at done
      simp only [bind_eq_ok, lift_eq_ok] at done
      obtain ⟨stored, storedRead, storedWeights, weightsRead, _, taken, outAffine, outAffineRead, _,
        outRead, _, _, slots, counted, results, computed, made⟩ := done
      cases taken
      cases describes.image.symm.trans read
      cases describes.outDims.symm.trans outRead
      obtain ⟨old, held, rfl⟩ := storedSlots_eq_ok counted
      have own : output.elementType = .i8 :=
        sameType.trans (Tensor.storedFor_eq_ok.1 storedRead).1
      refine ⟨input, _, extents.image, extents.outImage, rfl, describes.image, describes.outDims,
        Tensor.laidOut_withStored made ?_ fun pixel inside value present => ?_⟩
      · rw [size_of_tabulate computed, sized.stored held, describes.output_count]
      · have element := at_pixel computed inside present
        simp only [bind_eq_ok] at element
        obtain ⟨_, _, weightAffine, weightRead, sum, summed, moved⟩ := element
        rw [Tensor.quantization_of_affineFor outAffineRead, own]
        unfold storedConvRule
        simp only [bind_eq_ok, lift_eq_ok]
        refine ⟨affine, affineRead, record, recordRead, bias, biasRead, _, read, ?_⟩
        rw [describes.kernel]
        simp only [bind_eq_ok, lift_eq_ok]
        refine ⟨stored, storedRead, storedWeights, weightsRead, weightAffine, weightRead, sum,
          summed, ?_⟩
        cases bias with
        | none =>
            cases moved
            rfl
        | some start =>
            obtain ⟨shifted, added, same⟩ := bind_eq_ok.1 moved
            cases same
            exact bind_eq_ok.2 ⟨shifted, added, rfl⟩
  | _ => cases done

variable {lanes : Nat}

theorem RowConvolution.body_laidOut {α : Type} {conv : RowConvolution α} {packed : α}
    {extents : ConvExtents} {input weights : Tensor} {rest : List Tensor}
    {rule : Pixel → Attempt Element} (sized : output.Sized)
    (describes : extents.Describes input weights rest output)
    (held : derived.bind conv.held? = some packed)
    (channels : conv.outChannels packed = extents.outChannels)
    (sizes : ∀ {values bias size batch outRow outColumn row},
      conv.row extents.settings values extents.image packed bias size batch outRow outColumn =
        .ok row → row.size = size)
    (done : conv.body extents.settings
      ⟨.conv2d extents.settings, input :: weights :: rest, [output], derived⟩ = .ok written)
    (each : ∀ bias values pixel row value, biasFor rest[0]? conv.routine = .ok bias →
      channelsLastDims input conv.routine = .ok extents.image →
      input.singlesFor conv.routine = .ok values →
      conv.row extents.settings values extents.image packed bias (conv.outChannels packed)
        pixel.batch pixel.row pixel.column = .ok row →
      readAt row pixel.channel = .ok value → rule pixel = .ok (.single value)) :
    written.Follows (input :: weights :: rest) output rule := by
  unfold body at done
  simp only [held, bind_eq_ok, lift_eq_ok, map_eq_ok] at done
  obtain ⟨_, found, _, _, bias, biasRead, _, read, _, packedRead, _, taken, _, outRead, values,
    valuesRead, ⟨_, old⟩, slots, results, computed, rfl⟩ := done
  cases found
  cases taken
  cases packedRead
  have ⟨imageRead, last⟩ := channelsLastDims_eq_ok.1 read
  cases describes.image.symm.trans imageRead
  rw [← ImageDims.layout_of_last last] at outRead
  cases describes.outDims.symm.trans outRead
  obtain ⟨own, kept⟩ := Call.singleOutput_eq_ok.1 slots
  cases own
  have size : old.size = extents.outImage.count :=
    (sized.singles kept).trans describes.output_count
  rw [show conv.outChannels packed = extents.outImage.channels from channels] at computed each
  exact ⟨input, _, extents.image, extents.outImage, rfl, describes.image, describes.outDims,
    Tensor.laidOut_of_rows computed last size sizes fun pixel row value rowRead placed =>
      each bias values pixel row value biasRead read valuesRead rowRead placed⟩

theorem laneConvBody_follows
    (call : PreparedCall packLaneConvWeights params inputs output derived)
    (done : laneConvBody lanes ⟨params, inputs, [output], derived⟩ = .ok written) :
    written.Follows inputs output
      (laneConvRule lanes params inputs output.quantization derived) := by
  cases params with
  | conv2d settings =>
      obtain ⟨input, weights, rest, extents, rfl, rfl, describes⟩ := call.conv
      obtain ⟨packed, rfl, fits⟩ := call.fitsRows describes
      rw [laneConvBody_conv2d, guard_eq_ok] at done
      refine RowConvolution.body_laidOut (call.sized output (by simp)) describes rfl
        fits.outChannels size_of_laneConvRow done.2 ?_
      intro bias values pixel row value biasRead read valuesRead rowRead placed
      unfold laneConvRule
      simp only [bind_eq_ok, lift_eq_ok, map_eq_ok]
      exact ⟨bias, biasRead, _, read, packed, rfl, values, valuesRead, row, rowRead, value, placed,
        rfl⟩
  | _ => cases done

theorem laneDepthwiseBody_follows
    (call : PreparedCall packLaneDepthwiseWeights params inputs output derived)
    (done : laneDepthwiseBody lanes ⟨params, inputs, [output], derived⟩ = .ok written) :
    written.Follows inputs output
      (laneDepthwiseRule lanes params inputs output.quantization derived) := by
  cases params with
  | conv2d settings =>
      obtain ⟨input, weights, rest, extents, rfl, rfl, describes⟩ := call.conv
      obtain ⟨packed, rfl, fits⟩ := call.fitsChannels describes
      rw [laneDepthwiseBody_conv2d] at done
      refine RowConvolution.body_laidOut (call.sized output (by simp)) describes rfl
        fits.channels size_of_laneDepthwiseRow done ?_
      intro bias values pixel row value biasRead read valuesRead rowRead placed
      unfold laneDepthwiseRule
      simp only [bind_eq_ok, lift_eq_ok, map_eq_ok]
      exact ⟨bias, biasRead, _, read, packed, rfl, values, valuesRead, row, rowRead, value, placed,
        rfl⟩
  | _ => cases done

theorem lanePoolBody_follows (call : PreparedCall hook params inputs output derived)
    (done : lanePoolBody lanes ⟨params, inputs, [output], derived⟩ = .ok written) :
    written.Follows inputs output
      (lanePoolRule lanes params inputs output.quantization derived) := by
  cases params with
  | pool2d settings =>
      obtain ⟨input, others, image, outImage, rfl, images⟩ := call.poolImages
      have sized : output.Sized := call.sized output (by simp)
      unfold lanePoolBody at done
      simp only [bind_eq_ok, lift_eq_ok, map_eq_ok] at done
      obtain ⟨_, found, _, read, _, taken, _, outRead, values, valuesRead, ⟨_, old⟩, slots, results,
        computed, rfl⟩ := done
      cases found
      cases taken
      have ⟨imageRead, last⟩ := channelsLastDims_eq_ok.1 read
      cases images.read.symm.trans imageRead
      have layout := ImageDims.layout_of_last last
      cases images.written.symm.trans (layout ▸ outRead)
      obtain ⟨own, held⟩ := Call.singleOutput_eq_ok.1 slots
      cases own
      have size : old.size = outImage.count := (sized.singles held).trans images.output_count
      have lastOut : outImage.channelsLast = true :=
        (ImageDims.channelsLast_of_layout images.written).trans last
      rw [← images.channels] at computed
      refine ⟨input, others, image, outImage, rfl, images.read, images.written,
        Tensor.laidOut_of_rows computed lastOut size size_of_lanePoolRow
          fun pixel row value rowRead placed => ?_⟩
      unfold lanePoolRule
      simp only [bind_eq_ok, lift_eq_ok, map_eq_ok]
      refine ⟨_, read, values, valuesRead, row, ?_, value, placed, rfl⟩
      rw [← images.channels]
      exact rowRead
  | _ => cases done

theorem acceleratorConvBody_follows [Host] {routine : String} {staged : StagedWeights}
    (call : PreparedCall (stageWeights .conv routine) params inputs output
      (some (.stagedWeights staged)))
    (done : acceleratorConvBody staged
      ⟨params, inputs, [output], some (.stagedWeights staged)⟩ = .ok written) :
    written.Follows inputs output
      (acceleratorConvRule params inputs output.quantization (some (.stagedWeights staged))) := by
  cases params with
  | conv2d settings =>
      obtain ⟨input, weights, rest, _, extents, rfl, rfl, describes, same, has⟩ := call.stagedConv
      cases same
      have sized : output.Sized := call.sized output (by simp)
      unfold acceleratorConvBody at done
      simp only [bind_eq_ok, lift_eq_ok, guard_eq_ok] at done
      obtain ⟨_, found, affine, affineRead, _, read, notFirst, stored, storedRead, _, taken,
        outAffine, outAffineRead, _, outRead, stage, built, old, bytes, _, _, results, computed,
        made⟩ := done
      cases found
      cases taken
      cases describes.image.symm.trans read
      have last : extents.image.channelsLast = true := by simpa using notFirst
      rw [← ImageDims.layout_of_last last] at outRead
      cases describes.outDims.symm.trans outRead
      have own : output.elementType = .i8 := elementType_of_signedBytes bytes
      refine ⟨input, _, extents.image, extents.outImage, rfl, describes.image, describes.outDims,
        Tensor.laidOut_withStored made ?_ fun pixel inside value present => ?_⟩
      · rw [size_of_tabulate computed, sized.stored (signedBytes_eq_ok bytes),
          describes.output_count]
      · obtain ⟨bound, rfl⟩ := Array.getElem?_eq_some_iff.1 present
        have element := (tabulate_eq_ok.1 computed).2 _ bound
        have lastOut : extents.outImage.channelsLast = true := last
        obtain ⟨channel, place⟩ := ImageDims.split_index lastOut inside
        have channels : staged.outChannels = extents.outImage.channels := has.outChannels
        rw [channels, channel, place] at element
        simp only [bind_eq_ok] at element
        obtain ⟨_, _, _, _, _, _, start, started, sum, summed, kept⟩ := element
        rw [Tensor.quantization_of_affineFor outAffineRead, own]
        unfold acceleratorConvRule
        simp only [bind_eq_ok, lift_eq_ok]
        refine ⟨affine, affineRead, _, read, stored, storedRead, stage, built, start, started, sum,
          ?_, _, kept, rfl⟩
        rw [channels]
        exact summed
  | _ => cases done

end Bodies

end TensorRuntime
