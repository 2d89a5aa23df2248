import Mathlib.Data.List.Perm.Subperm
import Mathlib.Algebra.BigOperators.Group.List.Basic
import TensorRuntime.Kernel.Movement
import TensorRuntime.OutputShape
import TensorRuntime.Proofs.Positions
import TensorRuntime.Proofs.Reshaping
import TensorRuntime.Proofs.Sizes
import TensorRuntime.Proofs.Kernel.Frames

/-!
Where moved elements come from. A reshape keeps stored positions; a transpose keeps
coordinates, each along the axis that the permutation sends it to.
-/

namespace TensorRuntime

open Attempt

theorem perm_range_of_nodup {axes : List Nat} {rank : Nat} (distinct : axes.Nodup)
    (inside : ∀ axis ∈ axes, axis < rank) (length : rank ≤ axes.length) :
    axes.Perm (List.range rank) :=
  (distinct.subperm fun axis member => List.mem_range.2 (inside axis member)).perm_of_length_le
    (by simpa using length)

namespace Shape

theorem distinctAxes_eq_ok {rank : Nat} {axes seen : List Nat}
    (distinct : distinctAxes rank axes seen = .ok true) :
    axes.Nodup ∧ ∀ axis ∈ axes, axis < rank ∧ axis ∉ seen := by
  induction axes generalizing seen with
  | nil => simp
  | cons axis rest ih =>
      rw [distinctAxes] at distinct
      split at distinct
      · cases distinct
      · split at distinct
        · cases distinct
        · split at distinct
          · cases distinct
          · rename_i inside _ fresh
            obtain ⟨nodup, others⟩ := ih distinct
            refine ⟨List.nodup_cons.2 ⟨fun again => ?_, nodup⟩, ?_⟩
            · exact (others axis again).2 (List.mem_cons_self ..)
            · intro other member
              rcases List.mem_cons.1 member with rfl | later
              · exact ⟨by omega, fresh⟩
              · exact ⟨(others other later).1,
                  fun before => (others other later).2 (List.mem_cons_of_mem _ before)⟩

theorem distinctAxes_of_nodup {rank : Nat} {axes seen : List Nat} (low : rank ≤ maxRank)
    (distinct : axes.Nodup) (inside : ∀ axis ∈ axes, axis < rank)
    (fresh : ∀ axis ∈ axes, axis ∉ seen) : distinctAxes rank axes seen = .ok true := by
  induction axes generalizing seen with
  | nil => rfl
  | cons axis rest ih =>
      obtain ⟨new, others⟩ := List.nodup_cons.1 distinct
      have bound := inside axis (by simp)
      rw [distinctAxes, if_neg (by omega), if_neg (by omega), if_neg (fresh axis (by simp))]
      refine ih others (fun other member => inside other (by simp [member])) fun other member => ?_
      rw [List.mem_cons, not_or]
      exact ⟨fun same => new (same ▸ member), fresh other (by simp [member])⟩

theorem permute?_eq_ok {shape shape' : Shape} {permutation : List Nat}
    (found : shape.permute? permutation = .ok (some shape')) :
    permutation.Perm (List.range shape.rank) ∧
      shape'.dims = permutation.map fun axis => shape.dims.getD axis 1 := by
  unfold permute? at found
  split at found
  · cases found
  · rename_i length
    rw [bind_eq_ok] at found
    obtain ⟨distinct, checked, found⟩ := found
    split at found
    · rename_i all
      subst all
      cases found
      obtain ⟨nodup, inside⟩ := distinctAxes_eq_ok checked
      exact ⟨perm_range_of_nodup nodup (fun axis member => (inside axis member).1)
        (Nat.le_of_eq (Classical.not_not.1 length).symm), rfl⟩
    · cases found

theorem permute?_of_perm {shape : Shape} {permutation : List Nat} (low : shape.rank ≤ maxRank)
    (order : permutation.Perm (List.range shape.rank)) :
    shape.permute? permutation =
      .ok (some ⟨permutation.map fun axis => shape.dims.getD axis 1⟩) := by
  have length : permutation.length = shape.rank := by simpa using order.length_eq
  have distinct : permutation.Nodup := order.nodup_iff.2 List.nodup_range
  have inside : ∀ axis ∈ permutation, axis < shape.rank := fun axis member =>
    List.mem_range.1 (order.mem_iff.1 member)
  unfold permute?
  rw [if_neg (not_not_intro length), distinctAxes_of_nodup low distinct inside (by simp)]
  rfl

end Shape

/-- The stored position that a transpose reads for a position of its output. -/
def transposeSource (dims permutation : List Nat) (position : Nat) : Nat :=
  Shape.offset (Shape.coordinates (permutation.map fun axis => dims.getD axis 1) position)
    (permutation.map fun axis => (Shape.strides dims).getD axis 0)

section Transpose

variable {dims permutation : List Nat}

def spread (dims permutation coordinates : List Nat) : List Nat :=
  (List.range dims.length).map fun axis => coordinates.getD (permutation.idxOf axis) 0

theorem offset_spread (order : permutation.Perm (List.range dims.length))
    {coordinates strides : List Nat} (length : coordinates.length = permutation.length)
    (sizes : strides.length = dims.length) :
    Shape.offset coordinates (permutation.map fun axis => strides.getD axis 0) =
      Shape.offset (spread dims permutation coordinates) strides := by
  let product (axis : Nat) : Nat :=
    coordinates.getD (permutation.idxOf axis) 0 * strides.getD axis 0
  have distinct : permutation.Nodup := order.nodup_iff.2 List.nodup_range
  have byPlace : coordinates.zipWith (· * ·) (permutation.map fun axis => strides.getD axis 0) =
      permutation.map product := by
    apply List.ext_getElem
    · simp [length]
    · intro place first second
      have inside : place < permutation.length := by simpa using second
      simp [product, distinct.idxOf_getElem, length ▸ inside]
  have byAxis : (spread dims permutation coordinates).zipWith (· * ·) strides =
      (List.range dims.length).map product := by
    apply List.ext_getElem
    · simp [spread, sizes]
    · intro axis first second
      have inside : axis < strides.length := by simpa [sizes] using second
      simp [product, spread, inside]
  calc Shape.offset coordinates (permutation.map fun axis => strides.getD axis 0)
      = (permutation.map product).sum := congrArg List.sum byPlace
    _ = ((List.range dims.length).map product).sum := (order.map product).sum_eq
    _ = Shape.offset (spread dims permutation coordinates) strides :=
      (congrArg List.sum byAxis).symm

theorem within_spread (order : permutation.Perm (List.range dims.length))
    {coordinates : List Nat}
    (within : Shape.Within coordinates (permutation.map fun axis => dims.getD axis 1)) :
    Shape.Within (spread dims permutation coordinates) dims := by
  rw [Shape.within_iff] at within ⊢
  obtain ⟨length, below⟩ := within
  refine ⟨by simp [spread], fun axis first second => ?_⟩
  have place : permutation.idxOf axis < permutation.length :=
    List.idxOf_lt_length_of_mem (order.mem_iff.2 (List.mem_range.2 second))
  have inside : permutation.idxOf axis < coordinates.length := by simpa [length] using place
  simpa [spread, inside, second] using below _ inside (by simpa using place)

theorem permuted_positive (order : permutation.Perm (List.range dims.length))
    (positive : 0 ∉ dims) : 0 ∉ permutation.map fun axis => dims.getD axis 1 := by
  intro member
  obtain ⟨axis, listed, zero⟩ := List.mem_map.1 member
  have inside : axis < dims.length := List.mem_range.1 (order.mem_iff.1 listed)
  rw [List.getD_eq_getElem?_getD, List.getElem?_eq_getElem inside, Option.getD_some] at zero
  exact positive (zero ▸ List.getElem_mem inside)

theorem volume_permuted (order : permutation.Perm (List.range dims.length)) :
    volume (permutation.map fun axis => dims.getD axis 1) = volume dims := by
  have inOrder : (List.range dims.length).map (fun axis => dims.getD axis 1) = dims := by
    apply List.ext_getElem
    · simp
    · intro axis first second
      simp [second]
  calc volume (permutation.map fun axis => dims.getD axis 1)
      = ((List.range dims.length).map fun axis => dims.getD axis 1).prod :=
        (order.map fun axis => dims.getD axis 1).prod_eq
    _ = volume dims := congrArg List.prod inOrder

theorem coordinates_transposeSource (order : permutation.Perm (List.range dims.length))
    (positive : 0 ∉ dims) (position : Nat) :
    transposeSource dims permutation position < volume dims ∧
      ∀ place axis : Nat, permutation[place]? = some axis →
        (Shape.coordinates dims (transposeSource dims permutation position))[axis]? =
          (Shape.coordinates (permutation.map fun axis => dims.getD axis 1) position)[place]? := by
  have within := Shape.within_coordinates (permuted_positive order positive) position
  have length := within.length_eq
  rw [List.length_map] at length
  have source := offset_spread order length (Shape.length_strides dims)
  have inside := within_spread order within
  rw [transposeSource, source]
  refine ⟨Shape.offset_lt_volume inside, fun place axis found => ?_⟩
  have distinct : permutation.Nodup := order.nodup_iff.2 List.nodup_range
  obtain ⟨bound, rfl⟩ := List.getElem?_eq_some_iff.1 found
  have axisBound := List.mem_range.1 (order.mem_iff.1 (List.getElem_mem bound))
  rw [Shape.coordinates_offset inside, spread, List.getElem?_map, List.getElem?_range axisBound,
    Option.map_some, distinct.idxOf_getElem, List.getD_eq_getElem?_getD,
    List.getElem?_eq_getElem (length ▸ bound), Option.getD_some]

theorem transposeSources_eq (order : permutation.Perm (List.range dims.length)) :
    transposeSources dims permutation =
      .ok ((List.range (volume dims)).map (transposeSource dims permutation)) := by
  have length : permutation.length = dims.length := by simpa using order.length_eq
  have extents : permutation.mapM (readAt dims.toArray) =
      .ok (permutation.map fun axis => dims.getD axis 1) := by
    apply mapM_of_ok
    intro axis member
    have inside := List.mem_range.1 (order.mem_iff.1 member)
    rw [readAt_eq_ok]
    simp [inside]
  unfold transposeSources
  rw [extents]
  change (if volume dims = 0 then _ else _) = _
  by_cases empty : volume dims = 0
  · rw [if_pos empty, empty]
    rfl
  · have positive : 0 ∉ dims := Shape.volume_pos.1 (Nat.pos_of_ne_zero empty)
    rw [if_neg empty, if_neg (by omega)]
    apply mapM_of_ok
    intro position _
    rw [List.take_of_length_le (by simp [length]), List.take_of_length_le (by simp [length])]
    exact Shape.offsetOf_of_pos (permuted_positive order positive) _ _

end Transpose

section Gather

theorem mapM_readAt_ok {α : Type} {values : Array α} {sources : List Nat}
    (inside : ∀ source ∈ sources, source < values.size) :
    ∃ found, sources.mapM (readAt values) = .ok found ∧ found.length = sources.length ∧
      ∀ place source : Nat, sources[place]? = some source → found[place]? = values[source]? := by
  induction sources with
  | nil => exact ⟨[], rfl, rfl, fun _ _ impossible => by simp at impossible⟩
  | cons source rest ih =>
      obtain ⟨found, read, length, reads⟩ := ih fun other member => inside other (by simp [member])
      have bound := inside source (by simp)
      refine ⟨values[source] :: found, ?_, by simp [length], fun place other listed => ?_⟩
      · rw [List.mapM_cons, readAt_of_lt bound, read]
        rfl
      · cases place with
        | zero =>
            cases listed
            simp [bound]
        | succ place => exact reads place other listed

theorem gatherInto_ok {α : Type} {values old : Array α} {sources : List Nat}
    (length : sources.length = old.size) (inside : ∀ source ∈ sources, source < values.size) :
    ∃ moved, gatherInto values old sources = .ok moved ∧ moved.size = sources.length ∧
      ∀ place source : Nat, sources[place]? = some source → moved[place]? = values[source]? := by
  obtain ⟨found, read, size, reads⟩ := mapM_readAt_ok inside
  refine ⟨found.toArray, ?_, by simpa using size, by simpa using reads⟩
  unfold gatherInto
  rw [List.take_of_length_le (by omega), read]
  change Except.ok (found.toArray ++ old.extract found.length old.size) = _
  rw [Array.extract_eq_empty_of_le (by omega), Array.append_empty]

theorem gather_integers {values old : Buffer} {stored oldStored : Array Int} {sources : List Nat}
    (sameType : values.elementType = old.elementType) (held : values.integers? = some stored)
    (oldHeld : old.integers? = some oldStored) (length : sources.length = oldStored.size)
    (inside : ∀ source ∈ sources, source < stored.size) :
    ∃ moved stored', values.gather old sources = .ok moved ∧ moved.integers? = some stored' ∧
      ∀ place source : Nat, sources[place]? = some source → stored'[place]? = stored[source]? := by
  cases values <;> cases old <;>
    simp only [Buffer.elementType, Buffer.integers?, reduceCtorEq] at sameType held oldHeld
  all_goals
    cases held
    cases oldHeld
    obtain ⟨moved, gathered, _, reads⟩ := gatherInto_ok (by simpa using length)
      (by simpa using inside)
    refine ⟨_, _, congrArg (Functor.map _) gathered, rfl, fun place source listed => ?_⟩
    simp [reads place source listed]

end Gather

def Tensor.StoresMoved (tensor input : Tensor) (source : Nat → Nat) : Prop :=
  ∃ stored stored', input.buffer.integers? = some stored ∧
    tensor.buffer.integers? = some stored' ∧
    ∀ position < tensor.count, ∃ value,
      stored[source position]? = some value ∧ stored'[position]? = some value

namespace Params

theorem order_of_transpose {permutation : List Nat} {input : Tensor} {shape : Shape}
    (others : List Tensor)
    (inferred : (transpose permutation).outputShapeOf input others = .ok shape) :
    permutation.Perm (List.range input.dims.length) ∧
      shape.dims = permutation.map fun axis => input.dims.getD axis 1 := by
  dsimp only [outputShapeOf] at inferred
  rw [bind_eq_ok] at inferred
  obtain ⟨permuted, found, inferred⟩ := inferred
  split at inferred
  · cases inferred
    exact Shape.permute?_eq_ok found
  · cases inferred

theorem reshape?_of_reshape {target : List Int} {input : Tensor} {shape : Shape}
    (others : List Tensor)
    (inferred : (reshape target).outputShapeOf input others = .ok shape) :
    input.shape.reshape? target = some shape := by
  dsimp only [outputShapeOf] at inferred
  split at inferred
  · rename_i found
    rw [found, pure_eq_ok.1 inferred]
  · cases inferred

end Params

section Bodies

variable {input output : Tensor} (derived : Option Derived)

theorem reshapeBody_moves [Host] {target : List Int} (integer : input.elementType.isInteger = true)
    (sameType : output.elementType = input.elementType) (sized : input.Sized)
    (inferred : input.shape.reshape? target = some output.shape)
    (records : Quantization.sameOption input.quantization output.quantization = true) :
    ∃ written, reshapeBody ⟨.reshape target, [input], [output], derived⟩ = .ok written ∧
      written.StoresMoved input id := by
  have counts : output.count = input.count := Shape.count_of_reshape? inferred
  obtain ⟨stored, held⟩ := Buffer.exists_integers integer
  refine ⟨{ output with buffer := input.buffer }, ?_, stored, stored, held, held, ?_⟩
  · unfold reshapeBody
    simp only [bind_eq_ok, lift_eq_ok, guard_eq_ok]
    refine ⟨input, rfl, output, rfl, (), if_pos sameType.symm, by simp [counts], ?_⟩
    rw [if_pos records]
    rfl
  · intro position bound
    have inside : position < stored.size := by
      rw [sized.stored held, ← counts]
      exact bound
    exact ⟨stored[position], by simp [inside], by simp [inside]⟩

theorem transposeBody_eq [Host] {permutation : List Nat}
    (sameType : output.elementType = input.elementType)
    (order : permutation.Perm (List.range input.dims.length))
    (records : Quantization.sameOption input.quantization output.quantization = true) :
    transposeBody ⟨.transpose permutation, [input], [output], derived⟩ =
      (fun buffer => { output with buffer }) <$> input.buffer.gather output.buffer
        ((List.range (volume input.dims)).map (transposeSource input.dims permutation)) := by
  have checked : sameElementType input output transposeRoutine = .ok () := if_pos sameType.symm
  change (liftM (sameElementType input output transposeRoutine) : Attempt Unit).bind (fun _ =>
    (transposeSources input.dims permutation).bind fun sources =>
      if Quantization.sameOption input.quantization output.quantization then
        (input.buffer.gather output.buffer sources).bind fun buffer =>
          pure { output with buffer }
      else _) = _
  rw [checked, transposeSources_eq order]
  change (if Quantization.sameOption input.quantization output.quantization then _ else _) = _
  rw [if_pos records]
  cases input.buffer.gather output.buffer _ <;> rfl

theorem transposeBody_moves [Host] {permutation : List Nat}
    (integer : input.elementType.isInteger = true)
    (sameType : output.elementType = input.elementType) (sized : input.Sized)
    (outputSized : output.Sized) (order : permutation.Perm (List.range input.dims.length))
    (dims : output.dims = permutation.map fun axis => input.dims.getD axis 1)
    (records : Quantization.sameOption input.quantization output.quantization = true) :
    ∃ written, transposeBody ⟨.transpose permutation, [input], [output], derived⟩ = .ok written ∧
      written.StoresMoved input (transposeSource input.dims permutation) := by
  obtain ⟨stored, held⟩ := Buffer.exists_integers integer
  obtain ⟨oldStored, oldHeld⟩ := Buffer.exists_integers
    (show output.elementType.isInteger = true from sameType ▸ integer)
  have counts : output.count = volume input.dims := by
    change volume output.dims = _
    rw [dims, volume_permuted order]
  have inside : ∀ position < volume input.dims,
      transposeSource input.dims permutation position < stored.size := by
    intro position bound
    rw [sized.stored held]
    exact (coordinates_transposeSource order (Shape.volume_pos.1 (by omega)) position).1
  have length : ((List.range (volume input.dims)).map
      (transposeSource input.dims permutation)).length = oldStored.size := by
    simp [outputSized.stored oldHeld, counts]
  obtain ⟨moved, stored', gathered, movedHeld, reads⟩ :=
    gather_integers sameType.symm held oldHeld length (by simpa using inside)
  refine ⟨{ output with buffer := moved }, ?_, stored, stored', held, movedHeld, ?_⟩
  · rw [transposeBody_eq derived sameType order records, gathered]
    rfl
  · intro position bound
    have below : position < volume input.dims := counts ▸ bound
    have value := reads position (transposeSource input.dims permutation position)
      (by simp [below])
    rw [Array.getElem?_eq_getElem (inside position below)] at value
    exact ⟨_, Array.getElem?_eq_getElem (inside position below), value⟩

end Bodies

end TensorRuntime
