import TensorRuntime.Proofs.Kernel.Movement

/-!
Permutations of axes. The position that a transpose reads is the one whose coordinates, taken in
the order of the permutation, are those of the output; with this, transposes compose as their
permutations do.
-/

namespace TensorRuntime

open Attempt

abbrev turnedDims (dims permutation : List Nat) : List Nat :=
  permutation.map fun axis => dims.getD axis 1

/-- The coordinates of an element after a transpose: along axis `d` of the output, those that it had
along axis `permutation[d]` of the input. -/
def turnedIndex (permutation index : List Nat) : List Nat :=
  permutation.map fun axis => index.getD axis 0

def composedAxes (first second : List Nat) : List Nat :=
  second.map fun axis => first.getD axis 0

def inverseAxes (permutation : List Nat) : List Nat :=
  (List.range permutation.length).map permutation.idxOf

section Algebra

variable {permutation first second : List Nat} {rank : Nat}

theorem map_range_getD (entries : List Nat) (fallback : Nat) :
    (List.range entries.length).map (fun place => entries.getD place fallback) = entries := by
  apply List.ext_getElem
  · simp
  · intro place _ inside
    simp [inside]

theorem composedAxes_perm (order : first.Perm (List.range rank))
    (next : second.Perm (List.range first.length)) :
    (composedAxes first second).Perm (List.range rank) := by
  have shuffled := next.map fun axis => first.getD axis 0
  rw [map_range_getD] at shuffled
  exact shuffled.trans order

theorem composedAxes_inverseAxes (order : permutation.Perm (List.range rank)) :
    composedAxes permutation (inverseAxes permutation) = List.range rank := by
  have length : permutation.length = rank := by simpa using order.length_eq
  unfold composedAxes inverseAxes
  rw [List.map_map, length]
  refine (List.map_congr_left fun axis member => ?_).trans (List.map_id _)
  have place := List.idxOf_lt_length_of_mem (order.mem_iff.2 member)
  simp [place]

theorem inverseAxes_perm (order : permutation.Perm (List.range rank)) :
    (inverseAxes permutation).Perm (List.range permutation.length) := by
  have length : permutation.length = rank := by simpa using order.length_eq
  have distinct : (inverseAxes permutation).Nodup := by
    refine List.Nodup.of_map (fun axis => permutation.getD axis 0) ?_
    change (composedAxes permutation (inverseAxes permutation)).Nodup
    rw [composedAxes_inverseAxes order]
    exact List.nodup_range
  refine perm_range_of_nodup distinct (fun place member => ?_) (by simp [inverseAxes])
  obtain ⟨axis, listed, rfl⟩ := List.mem_map.1 member
  rw [length] at listed
  exact List.idxOf_lt_length_of_mem (order.mem_iff.2 listed)

theorem turnedIndex_range (index : List Nat) :
    turnedIndex (List.range index.length) index = index := map_range_getD index 0

theorem turnedIndex_composedAxes (next : second.Perm (List.range first.length))
    (index : List Nat) :
    turnedIndex second (turnedIndex first index) =
      turnedIndex (composedAxes first second) index := by
  unfold turnedIndex composedAxes
  rw [List.map_map]
  refine List.map_congr_left fun axis member => ?_
  have inside : axis < first.length := List.mem_range.1 (next.mem_iff.1 member)
  simp [inside]

theorem turnedDims_composedAxes (next : second.Perm (List.range first.length)) (dims : List Nat) :
    turnedDims (turnedDims dims first) second = turnedDims dims (composedAxes first second) := by
  unfold turnedDims composedAxes
  rw [List.map_map]
  refine List.map_congr_left fun axis member => ?_
  have inside : axis < first.length := List.mem_range.1 (next.mem_iff.1 member)
  simp [inside]

end Algebra

section Coordinates

variable {permutation first second dims index other : List Nat}
  (order : permutation.Perm (List.range dims.length))

include order

theorem turnedIndex_injective (within : Shape.Within index dims) (within' : Shape.Within other dims)
    (same : turnedIndex permutation index = turnedIndex permutation other) : index = other := by
  apply List.ext_getElem (within.length_eq.trans within'.length_eq.symm)
  intro axis first second
  have listed : axis ∈ permutation := order.mem_iff.2 (List.mem_range.2 (within.length_eq ▸ first))
  obtain ⟨place, bound, rfl⟩ := List.getElem_of_mem listed
  have here := congrArg (fun entries => entries[place]?) same
  simpa [turnedIndex, bound, first, second] using here

theorem turnedIndex_transposeSource (positive : 0 ∉ dims) (position : Nat) :
    turnedIndex permutation (Shape.coordinates dims (transposeSource dims permutation position)) =
      Shape.coordinates (turnedDims dims permutation) position := by
  obtain ⟨_, moved⟩ := coordinates_transposeSource order positive position
  apply List.ext_getElem
  · simp [turnedIndex, Shape.length_coordinates]
  · intro place first second
    have listed : place < permutation.length := by simpa [turnedIndex] using first
    have here := moved place permutation[place] (List.getElem?_eq_getElem listed)
    rw [List.getElem?_eq_getElem second] at here
    simp [turnedIndex, here]

theorem eq_of_turnedIndex (positive : 0 ∉ dims) {position position' : Nat}
    (bound : position < volume dims) (bound' : position' < volume dims)
    (same : turnedIndex permutation (Shape.coordinates dims position) =
      turnedIndex permutation (Shape.coordinates dims position')) : position = position' := by
  have within := Shape.within_coordinates positive
  have coordinates := turnedIndex_injective order (within position) (within position') same
  have offsets := congrArg (fun own => Shape.offset own (Shape.strides dims)) coordinates
  simp only [Shape.offset_coordinates] at offsets
  rwa [Nat.mod_eq_of_lt bound, Nat.mod_eq_of_lt bound'] at offsets

omit order

theorem transposeSource_range (positive : 0 ∉ dims) {position : Nat}
    (bound : position < volume dims) :
    transposeSource dims (List.range dims.length) position = position := by
  have inside := (coordinates_transposeSource (.refl _) positive position).1
  refine eq_of_turnedIndex (.refl _) positive inside bound ?_
  rw [turnedIndex_transposeSource (.refl _) positive, turnedDims, map_range_getD]
  have length := Shape.length_coordinates dims position
  rw [← length, turnedIndex_range]

theorem transposeSource_composedAxes (order : first.Perm (List.range dims.length))
    (next : second.Perm (List.range first.length)) (positive : 0 ∉ dims) (position : Nat) :
    transposeSource dims first (transposeSource (turnedDims dims first) second position) =
      transposeSource dims (composedAxes first second) position := by
  have composed := composedAxes_perm order next
  have next' : second.Perm (List.range (turnedDims dims first).length) := by simpa using next
  have positive' : 0 ∉ turnedDims dims first := permuted_positive order positive
  refine eq_of_turnedIndex composed positive (coordinates_transposeSource order positive _).1
    (coordinates_transposeSource composed positive _).1 ?_
  rw [← turnedIndex_composedAxes next, turnedIndex_transposeSource order positive,
    turnedIndex_transposeSource next' positive', turnedIndex_transposeSource composed positive,
    turnedDims_composedAxes next]

include order in
theorem transposeSource_injective (positive : 0 ∉ dims) {position position' : Nat}
    (bound : position < volume dims) (bound' : position' < volume dims)
    (same : transposeSource dims permutation position =
      transposeSource dims permutation position') : position = position' := by
  have coordinates := turnedIndex_transposeSource order positive position
  rw [same, turnedIndex_transposeSource order positive] at coordinates
  have offsets :=
    congrArg (Shape.offset · (Shape.strides (turnedDims dims permutation))) coordinates
  simp only [Shape.offset_coordinates, turnedDims, volume_permuted order] at offsets
  rw [Nat.mod_eq_of_lt bound, Nat.mod_eq_of_lt bound'] at offsets
  exact offsets.symm

include order in
/-- A transpose reads every position once. -/
theorem transposeSources_perm :
    ((List.range (volume dims)).map (transposeSource dims permutation)).Perm
      (List.range (volume dims)) := by
  have positive {position : Nat} (member : position ∈ List.range (volume dims)) : 0 ∉ dims :=
    Shape.volume_pos.1 (Nat.zero_lt_of_lt (List.mem_range.1 member))
  have distinct : ((List.range (volume dims)).map (transposeSource dims permutation)).Nodup :=
    List.Nodup.map_on (fun _ member _ member' same =>
      transposeSource_injective order (positive member) (List.mem_range.1 member)
        (List.mem_range.1 member') same) List.nodup_range
  refine perm_range_of_nodup distinct (fun source member => ?_) (by simp)
  obtain ⟨position, listed, rfl⟩ := List.mem_map.1 member
  exact (coordinates_transposeSource order (positive listed) position).1

end Coordinates

end TensorRuntime
