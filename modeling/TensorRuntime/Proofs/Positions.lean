import Mathlib.Data.List.Forall2
import TensorRuntime.Quantization
import TensorRuntime.Shape
import TensorRuntime.Proofs.Attempt
import TensorRuntime.Proofs.Kernel.Reading

/-!
Stored positions and coordinates. Inside some extents they determine each other, and
the channel of an element is its coordinate along the axis of the record.
-/

namespace TensorRuntime

open Attempt

namespace Shape

abbrev Within (coordinates dims : List Nat) : Prop := List.Forall₂ (· < ·) coordinates dims

theorem within_iff {coordinates dims : List Nat} :
    Within coordinates dims ↔ coordinates.length = dims.length ∧
      ∀ axis (first : axis < coordinates.length) (second : axis < dims.length),
        coordinates[axis] < dims[axis] :=
  List.forall₂_iff_get

theorem offset_cons (coordinate stride : Nat) (coordinates strides : List Nat) :
    offset (coordinate :: coordinates) (stride :: strides) =
      coordinate * stride + offset coordinates strides := rfl

theorem within_coordinates {dims : List Nat} (positive : 0 ∉ dims) (position : Nat) :
    Within (coordinates dims position) dims := by
  induction dims with
  | nil => exact .nil
  | cons extent inner ih =>
      simp only [List.mem_cons, not_or] at positive
      exact .cons (Nat.mod_lt _ (by omega)) (ih positive.2)

theorem offset_lt_volume {coordinates dims : List Nat} (within : Within coordinates dims) :
    offset coordinates (strides dims) < volume dims := by
  induction within with
  | nil => decide
  | cons inside _ ih => exact place_lt inside ih

theorem coordinates_add_mul (dims : List Nat) (position turns : Nat) :
    coordinates dims (turns * volume dims + position) = coordinates dims position := by
  induction dims generalizing turns with
  | nil => rfl
  | cons extent inner ih =>
      rw [volume_cons, ← Nat.mul_assoc, coordinates, coordinates, ih]
      congr 1
      by_cases empty : volume inner = 0
      · simp [empty]
      · rw [Nat.add_comm, Nat.add_mul_div_right _ _ (Nat.pos_of_ne_zero empty),
          Nat.add_mul_mod_self_right]

theorem coordinates_offset {within dims : List Nat} (inside : Within within dims) :
    coordinates dims (offset within (strides dims)) = within := by
  induction inside with
  | nil => rfl
  | @cons coordinate extent others inner bound rest ih =>
      have below := offset_lt_volume rest
      rw [strides, offset_cons, coordinates, coordinates_add_mul, ih, place_div below,
        Nat.mod_eq_of_lt bound]

theorem offset_coordinates (dims : List Nat) (position : Nat) :
    offset (coordinates dims position) (strides dims) = position % volume dims := by
  induction dims with
  | nil => exact (Nat.mod_one position).symm
  | cons extent inner ih =>
      rw [strides, coordinates, offset_cons, ih, volume_cons, Nat.mul_comm extent, Nat.mod_mul,
        Nat.mul_comm, Nat.add_comm]

theorem coordinates_getElem? (dims : List Nat) (position axis : Nat) :
    (coordinates dims position)[axis]? =
      dims[axis]?.map fun extent => position / volume (dims.drop (axis + 1)) % extent := by
  induction dims generalizing axis with
  | nil => rfl
  | cons extent inner ih =>
      cases axis with
      | zero => rfl
      | succ axis => simpa [coordinates] using ih axis

theorem volume_pos {dims : List Nat} : 0 < volume dims ↔ 0 ∉ dims := by
  induction dims with
  | nil => simp
  | cons extent inner ih =>
      rw [volume_cons, List.mem_cons, not_or, ← ih, Nat.pos_iff_ne_zero, Nat.mul_ne_zero_iff]
      omega

theorem offsetOf_of_pos {dims : List Nat} (positive : 0 ∉ dims) (strides : List Nat)
    (position : Nat) :
    offsetOf dims strides position = .ok (offset (coordinates dims position) strides) :=
  if_neg positive

end Shape

namespace Quantization

theorem channelOf_eq {record : Quantization} {axis : Nat} (along : record.axis? = some axis)
    {dims : List Nat} (positive : 0 ∉ dims) (inside : axis < dims.length) (position : Nat) :
    (Shape.coordinates dims position)[axis]? = some (record.channelOf dims position) := by
  have extent : dims[axis] ≠ 0 := fun zero => positive (zero ▸ List.getElem_mem inside)
  have after : 0 < volume (dims.drop (axis + 1)) :=
    Shape.volume_pos.2 fun member => positive (List.mem_of_mem_drop member)
  rw [Shape.coordinates_getElem?, List.getElem?_eq_getElem inside, channelOf, along]
  simp only [Option.map_some, List.getElem?_eq_getElem inside, Option.getD_some]
  rw [Nat.max_eq_right after, Nat.max_eq_right (Nat.pos_of_ne_zero extent)]

end Quantization

end TensorRuntime
