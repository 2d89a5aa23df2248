import TensorRuntime.Proofs.Accumulation
import TensorRuntime.Proofs.Kernel.Calls
import TensorRuntime.Proofs.Kernel.TransposeLaw

/-!
Padding. The loop scatters the elements of a tensor into an output that is filled with one value;
every element has a place of its own there, the index that it had moved by what is padded before
each axis, and what no element is moved to keeps the value. That takes an output whose extents and
whose elements can be counted in words: places are reduced to words, like the extents before.
-/

namespace TensorRuntime

open Attempt

section Indices

def paddedIndex (pads : List (Nat × Nat)) (index : List Nat) : List Nat :=
  index.zipWith (fun coordinate pad => coordinate + pad.1) pads

/-- The index before padding, which the padding itself does not have. -/
def unpaddedIndex? : List Nat → List (Nat × Nat) → List Nat → Option (List Nat)
  | extent :: dims, pad :: pads, coordinate :: index =>
      if pad.1 ≤ coordinate ∧ coordinate - pad.1 < extent then
        (unpaddedIndex? dims pads index).map fun rest => (coordinate - pad.1) :: rest
      else none
  | _, _, _ => some []

variable {dims index : List Nat} {pads : List (Nat × Nat)}

theorem within_paddedIndex (length : pads.length = dims.length)
    (within : Shape.Within index dims) :
    Shape.Within (paddedIndex pads index) (paddedDims dims pads) := by
  induction within generalizing pads with
  | nil =>
      cases List.length_eq_zero_iff.1 length
      exact .nil
  | cons bound _ ih =>
      cases pads with
      | nil => cases length
      | cons pad pads => exact .cons (by dsimp only; omega) (ih (Nat.succ_inj.1 length))

theorem offset_paddedIndex (length : pads.length = dims.length)
    (within : Shape.Within index dims) (strides : List Nat) :
    Shape.offset (paddedIndex pads index) strides =
      Shape.offset index strides + Shape.offset (pads.map Prod.fst) strides := by
  induction within generalizing pads strides with
  | nil =>
      cases List.length_eq_zero_iff.1 length
      rfl
  | @cons coordinate extent index dims _ _ ih =>
      rcases pads with _ | ⟨pad, pads⟩
      · cases length
      rcases strides with _ | ⟨stride, strides⟩
      · rfl
      have rest := ih (Nat.succ_inj.1 length) strides
      unfold paddedIndex at rest ⊢
      rw [List.zipWith_cons_cons, List.map_cons, Shape.offset_cons, Shape.offset_cons,
        Shape.offset_cons, rest, Nat.add_mul]
      omega

theorem unpaddedIndex?_eq_some (length : pads.length = dims.length)
    (within : Shape.Within index (paddedDims dims pads)) {source : List Nat} :
    unpaddedIndex? dims pads index = some source ↔
      Shape.Within source dims ∧ paddedIndex pads source = index := by
  induction dims generalizing pads index source with
  | nil =>
      cases List.length_eq_zero_iff.1 length
      cases within
      constructor
      · intro found
        cases found
        exact ⟨.nil, rfl⟩
      · rintro ⟨inside, _⟩
        cases inside
        rfl
  | cons extent dims ih =>
      rcases pads with _ | ⟨pad, pads⟩
      · cases length
      rcases within with _ | ⟨bound, rest⟩
      rename_i coordinate index
      have others := fun {source} => @ih index pads (Nat.succ_inj.1 length) rest source
      unfold unpaddedIndex?
      by_cases inside : pad.1 ≤ coordinate ∧ coordinate - pad.1 < extent
      · rw [if_pos inside, Option.map_eq_some_iff]
        constructor
        · rintro ⟨source, found, rfl⟩
          obtain ⟨sourceWithin, rfl⟩ := others.1 found
          refine ⟨.cons inside.2 sourceWithin, ?_⟩
          unfold paddedIndex
          rw [List.zipWith_cons_cons, Nat.sub_add_cancel inside.1]
        · rintro ⟨sourceWithin, moved⟩
          rcases sourceWithin with _ | ⟨_, otherWithin⟩
          unfold paddedIndex at moved
          rw [List.zipWith_cons_cons, List.cons.injEq] at moved
          refine ⟨_, others.2 ⟨otherWithin, moved.2⟩, ?_⟩
          rw [← moved.1, Nat.add_sub_cancel]
      · rw [if_neg inside]
        refine ⟨nofun, ?_⟩
        rintro ⟨sourceWithin, moved⟩
        rcases sourceWithin with _ | ⟨below, _⟩
        unfold paddedIndex at moved
        rw [List.zipWith_cons_cons, List.cons.injEq] at moved
        omega

theorem paddedIndex_injective (length : pads.length = dims.length) {other : List Nat}
    (within : Shape.Within index dims) (otherWithin : Shape.Within other dims)
    (same : paddedIndex pads index = paddedIndex pads other) : index = other := by
  have moved := within_paddedIndex length within
  have found := (unpaddedIndex?_eq_some length moved).2 ⟨within, rfl⟩
  have otherFound := (unpaddedIndex?_eq_some length moved).2 ⟨otherWithin, same.symm⟩
  exact Option.some.inj (found.symm.trans otherFound)

end Indices

section Loop

variable {dims : List Nat} {pads : List (Nat × Nat)} {values : Array Single}

def paddedPlace (dims : List Nat) (pads : List (Nat × Nat)) (position : Nat) : Nat :=
  Shape.offset (paddedIndex pads (Shape.coordinates dims position))
    (Shape.strides (paddedDims dims pads))

theorem paddedPlace_lt (length : pads.length = dims.length) {position : Nat}
    (bound : position < volume dims) :
    paddedPlace dims pads position < volume (paddedDims dims pads) := by
  have positive : 0 ∉ dims := Shape.volume_pos.1 (Nat.zero_lt_of_lt bound)
  exact Shape.offset_lt_volume
    (within_paddedIndex length (Shape.within_coordinates positive position))

theorem paddedPlace_injective (length : pads.length = dims.length) {position other : Nat}
    (bound : position < volume dims) (otherBound : other < volume dims)
    (same : paddedPlace dims pads position = paddedPlace dims pads other) : position = other := by
  have positive : 0 ∉ dims := Shape.volume_pos.1 (Nat.zero_lt_of_lt bound)
  have within := Shape.within_coordinates positive position
  have otherWithin := Shape.within_coordinates positive other
  have moved := congrArg (Shape.coordinates (paddedDims dims pads)) same
  unfold paddedPlace at moved
  rw [Shape.coordinates_offset (within_paddedIndex length within),
    Shape.coordinates_offset (within_paddedIndex length otherWithin)] at moved
  have stored := congrArg (fun index => Shape.offset index (Shape.strides dims))
    (paddedIndex_injective length within otherWithin moved)
  rwa [Shape.offset_coordinates, Shape.offset_coordinates, Nat.mod_eq_of_lt bound,
    Nat.mod_eq_of_lt otherBound] at stored

theorem nodup_paddedPlaces (length : pads.length = dims.length) :
    ((List.range (volume dims)).map (paddedPlace dims pads)).Nodup :=
  List.nodup_range.map_on fun _ member _ otherMember =>
    paddedPlace_injective length (List.mem_range.1 member) (List.mem_range.1 otherMember)

theorem padInto_eq (length : pads.length = dims.length)
    (fits : volume (paddedDims dims pads) < wordLimit) (size : values.size = volume dims)
    (value : Single) (count : Nat) :
    padInto values dims pads value count (paddedDims dims pads) =
      values.toList.zipIdx.foldlM
        (fun padded entry => writeAt padded (paddedPlace dims pads entry.2) entry.1)
        (Array.replicate count value) := by
  have rank : (paddedDims dims pads).length = dims.length := by simp [paddedDims, length]
  unfold padInto
  dsimp only
  rw [if_neg (by omega)]
  refine foldlM_congr (fun entry member padded => ?_) _
  have bound : entry.2 < volume dims := by
    rw [← size, ← Array.length_toList]
    exact List.snd_lt_of_mem_zipIdx member
  have positive : 0 ∉ dims := Shape.volume_pos.1 (Nat.zero_lt_of_lt bound)
  have within := Shape.within_coordinates positive entry.2
  have place := word_of_lt ((paddedPlace_lt length bound).trans fits)
  rw [paddedPlace, offset_paddedIndex length within] at place
  rw [if_neg (by omega), Shape.offsetOf_of_pos positive, paddedPlace,
    offset_paddedIndex length within, ← place]
  split
  · rename_i short
    rw [List.length_eq_zero_iff.1 (rank.trans short)]
    rfl
  · rename_i short
    obtain ⟨extent, only⟩ := List.length_eq_one_iff.1 (rank.trans short)
    rw [only]
    rfl
  · rw [List.take_of_length_le (by omega)]
    rfl

/-- After the loop, elements are at their padded indices and all else holds the value. -/
theorem exists_padded (length : pads.length = dims.length)
    (fits : volume (paddedDims dims pads) < wordLimit) (size : values.size = volume dims)
    (value : Single) :
    ∃ written, padInto values dims pads value (volume (paddedDims dims pads))
        (paddedDims dims pads) = .ok written ∧
      written.size = volume (paddedDims dims pads) ∧
      ∀ index, Shape.Within index (paddedDims dims pads) →
        written[Shape.offset index (Shape.strides (paddedDims dims pads))]? =
          match unpaddedIndex? dims pads index with
          | some source => values[Shape.offset source (Shape.strides dims)]?
          | none => some value := by
  have places : values.toList.zipIdx.map (fun entry => paddedPlace dims pads entry.2) =
      (List.range (volume dims)).map (paddedPlace dims pads) := by
    rw [← size, ← Array.length_toList, List.range_eq_range', ← List.zipIdx_map_snd, List.map_map]
    rfl
  have inside : ∀ entry ∈ values.toList.zipIdx, paddedPlace dims pads entry.2 <
      (Array.replicate (volume (paddedDims dims pads)) value).size := by
    intro entry member
    rw [Array.size_replicate]
    exact paddedPlace_lt length (by simpa [size] using List.snd_lt_of_mem_zipIdx member)
  obtain ⟨written, done, writtenSize, held, kept⟩ := foldlM_scatter Prod.fst inside
    (places ▸ nodup_paddedPlaces length)
  refine ⟨written, (padInto_eq length fits size value _).trans done, by simpa using writtenSize,
    fun index within => ?_⟩
  cases found : unpaddedIndex? dims pads index with
  | some source =>
      obtain ⟨sourceWithin, rfl⟩ := (unpaddedIndex?_eq_some length within).1 found
      have bound := Shape.offset_lt_volume sourceWithin
      have present := Array.getElem?_eq_getElem (size ▸ bound)
      have own := held (_, Shape.offset source (Shape.strides dims))
        (List.mem_zipIdx_iff_getElem?.2 (Array.getElem?_toList.trans present))
      unfold paddedPlace at own
      rw [Shape.coordinates_offset sourceWithin] at own
      exact own.trans present.symm
  | none =>
      rw [kept, Array.getElem?_replicate, if_pos (Shape.offset_lt_volume within)]
      rw [places]
      intro member
      obtain ⟨position, listed, moved⟩ := List.mem_map.1 member
      have positive : 0 ∉ dims :=
        Shape.volume_pos.1 (Nat.zero_lt_of_lt (List.mem_range.1 listed))
      have sourceWithin := Shape.within_coordinates positive position
      have same := congrArg (Shape.coordinates (paddedDims dims pads)) moved
      unfold paddedPlace at same
      rw [Shape.coordinates_offset (within_paddedIndex length sourceWithin),
        Shape.coordinates_offset within] at same
      cases found.symm.trans ((unpaddedIndex?_eq_some length within).2 ⟨sourceWithin, same⟩)

end Loop

/-- The law of padding, for every rank and every extent and whatever is padded before and after an
axis, while the padded extents and their elements are counted in words. The call is accepted; the
loop makes one write for each element, inside the output and at places that are all different; and
under an index of the result is the element from before the padding where the index has one, and the
pad value where it has none. -/
theorem pads_scatter {pads : List (Nat × Nat)} {input output : Tensor} (value : Single)
    (derived : Option Derived) (length : pads.length = input.dims.length)
    (fits : PaddedFits input.dims pads) (dims : output.dims = paddedDims input.dims pads)
    (valid : input.Valid) (outValid : output.Valid) (singles : input.elementType = .f32)
    (outSingles : output.elementType = .f32) :
    (Params.pad pads value).outputShape [input] = .ok output.shape ∧
    (∀ values : Array Single, values.size = input.count →
      padInto values input.dims pads value output.count output.dims =
        values.toList.zipIdx.foldlM
          (fun padded entry => writeAt padded (paddedPlace input.dims pads entry.2) entry.1)
          (Array.replicate output.count value)) ∧
    (∀ position < input.count, paddedPlace input.dims pads position < output.count) ∧
    ((List.range input.count).map (paddedPlace input.dims pads)).Nodup ∧
    ∃ written,
      padKernel.run ⟨.pad pads value, [input], [output], derived⟩ = ⟨[written], .ok ()⟩ ∧
      written.frame = output.frame ∧
      (∀ index, Shape.Within index output.dims → written.entryAt? index =
        match unpaddedIndex? input.dims pads index with
        | some source => input.entryAt? source
        | none => some (.single value)) ∧
      (∀ source, Shape.Within source input.dims →
        Shape.Within (paddedIndex pads source) output.dims ∧
        (∀ other, Shape.Within other input.dims →
          paddedIndex pads other = paddedIndex pads source → other = source) ∧
        ∃ element, input.entryAt? source = some (.single element) ∧
          written.entryAt? (paddedIndex pads source) = some (.single element)) := by
  have count : output.count = volume (paddedDims input.dims pads) := congrArg volume dims
  obtain ⟨values, held, size⟩ := valid.singles singles
  obtain ⟨old, outHeld, oldSize⟩ := outValid.singles outSingles
  obtain ⟨written, done, writtenSize, each⟩ := exists_padded length fits.2 size value
  have read : ∀ source, input.entryAt? source =
      values[Shape.offset source (Shape.strides input.dims)]?.map .single :=
    fun source => Tensor.stores_singles held _
  have cells : ∀ index, Shape.Within index (paddedDims input.dims pads) →
      (output.withSingles written).entryAt? index =
        match unpaddedIndex? input.dims pads index with
        | some source => input.entryAt? source
        | none => some (.single value) := by
    intro index within
    change written[Shape.offset index (Shape.strides output.dims)]?.map Entry.single = _
    rw [dims, each index within]
    cases unpaddedIndex? input.dims pads index with
    | some source => exact (read source).symm
    | none => rfl
  refine ⟨?_, fun own ownSize => ?_, fun position bound => ?_, nodup_paddedPlaces length,
    output.withSingles written, Kernel.run_ofBody_ok ?_, ?_, fun index within => ?_,
    fun source within => ?_⟩
  · refine Params.outputShape_eq_ok.2 ⟨input, [], rfl, Nat.le_refl 1, Nat.le_refl 1, ?_⟩
    exact (Params.outputShapeOf_pad fits).2 ⟨length, dims⟩
  · rw [count, dims]
    exact padInto_eq length fits.2 ownSize value _
  · rw [count]
    exact paddedPlace_lt length bound
  · unfold padBody
    simp only [bind_eq_ok, lift_eq_ok, map_eq_ok]
    refine ⟨input, rfl, output, rfl, values, Tensor.singlesFor_eq held _, ⟨output, old⟩,
      Call.singleOutput_eq outHeld _, written, ?_, rfl⟩
    rw [oldSize, count, dims]
    exact done
  · exact Tensor.frame_of_withSingles outHeld (writtenSize.trans (count.symm.trans oldSize.symm))
  · exact cells index (dims ▸ within)
  · have moved := within_paddedIndex length within
    have bound : Shape.offset source (Shape.strides input.dims) < values.size := by
      rw [size]
      exact Shape.offset_lt_volume within
    have present := Array.getElem?_eq_getElem bound
    have found : input.entryAt? source = some (.single _) :=
      (read source).trans (congrArg (Option.map _) present)
    refine ⟨dims ▸ moved, fun other otherWithin same =>
      paddedIndex_injective length otherWithin within same, _, found, ?_⟩
    rw [cells _ moved, (unpaddedIndex?_eq_some length moved).2 ⟨within, rfl⟩]
    exact found

def paddingTensor (dims : List Nat) (values : Array Single) : Tensor :=
  ⟨"", ⟨dims⟩, .any, none, .external, .f32 values⟩

def unpaddedRows : Tensor := paddingTensor [2, 2] #[1, 2, 3, 4]

def paddedRows : Tensor := paddingTensor [3, 4] #[0, 0, 0, 0, 0, 0, 0, 0, 0, 0, 0, 0]

def unpaddedEmpty : Tensor := paddingTensor [0] #[]

def paddedEmpty : Tensor := paddingTensor [2] #[0, 0]

theorem rows_pad_scatter :
    (PaddedFits [2, 2] [(1, 0), (0, 2)] ∧ ∃ written,
      padKernel.run ⟨.pad [(1, 0), (0, 2)] 7, [unpaddedRows], [paddedRows], none⟩ =
        ⟨[written], .ok ()⟩ ∧
      written.entryAt? [1, 0] = some (.single 1) ∧ written.entryAt? [2, 1] = some (.single 4) ∧
      written.entryAt? [0, 1] = some (.single 7) ∧ written.entryAt? [2, 2] = some (.single 7)) ∧
    PaddedFits [0] [(1, 1)] ∧ ∃ written,
      padKernel.run ⟨.pad [(1, 1)] 7, [unpaddedEmpty], [paddedEmpty], none⟩ =
        ⟨[written], .ok ()⟩ ∧
      written.entryAt? [0] = some (.single 7) ∧ written.entryAt? [1] = some (.single 7) := by
  have rowsFit : PaddedFits [2, 2] [(1, 0), (0, 2)] := by
    unfold PaddedFits
    decide
  have emptyFits : PaddedFits [0] [(1, 1)] := by
    unfold PaddedFits
    decide
  obtain ⟨_, _, _, _, written, ran, _, cells, _⟩ := @pads_scatter [(1, 0), (0, 2)] unpaddedRows
    paddedRows 7 none rfl rowsFit rfl rfl rfl rfl rfl
  obtain ⟨_, _, _, _, written', ran', _, cells', _⟩ := @pads_scatter [(1, 1)] unpaddedEmpty
    paddedEmpty 7 none rfl emptyFits rfl rfl rfl rfl rfl
  exact ⟨⟨rowsFit, written, ran, cells [1, 0] (by decide), cells [2, 1] (by decide),
    cells [0, 1] (by decide), cells [2, 2] (by decide)⟩, emptyFits, written', ran',
    cells' [0] (by decide), cells' [1] (by decide)⟩

/-- Padding by almost a whole word is accepted, as the extent wraps around to a small one. The one
element lands at an index where only padding belongs, and where the padding before it is what wraps,
the write leaves the output. -/
theorem wrappedPads_misplace :
    let pads := [(0, 1), (2, wordLimit - 1)]
    let input := paddingTensor [1, 1] #[7]
    let output := paddingTensor [2, 2] #[0, 0, 0, 0]
    let pair := paddingTensor [2] #[1, 2]
    ((Params.pad pads 0).outputShape [input] = .ok output.shape ∧
      unpaddedIndex? input.dims pads [1, 0] = none ∧
      padKernel.run ⟨.pad pads 0, [input], [output], none⟩ =
        ⟨[output.withSingles #[0, 0, 7, 0]], .ok ()⟩ ∧
      (output.withSingles #[0, 0, 7, 0]).entryAt? [1, 0] = some (.single 7)) ∧
    (Params.pad [(wordLimit - 1, 1)] 0).outputShape [pair] = .ok pair.shape ∧
      (padKernel.run ⟨.pad [(wordLimit - 1, 1)] 0, [pair], [pair], none⟩).outcome =
        Attempt.abort :=
  ⟨⟨rfl, rfl, rfl, rfl⟩, rfl, rfl⟩

end TensorRuntime
