import TensorRuntime.Error
import TensorRuntime.Extents

/-! Shapes: extents from the outermost axis inwards, elements in row-major order. -/

namespace TensorRuntime

def maxRank : Nat := 6

structure Shape where
  dims : List Nat
  deriving DecidableEq, Repr, Inhabited

namespace Shape

def scalar : Shape := ⟨[]⟩

def rank (shape : Shape) : Nat := shape.dims.length

def count (shape : Shape) : Nat := volume shape.dims

def text (shape : Shape) : String := sizesText shape.dims

def ofDims (dims : List Nat) : Except Error Shape :=
  if maxRank < dims.length then
    .error (.invalidDescriptor
      ("rank " ++ dims.length.repr ++ " exceeds maximum " ++ maxRank.repr))
  else .ok ⟨dims⟩

/-- How far apart neighbours along each axis are stored, exact as the number of elements is. -/
def strides : List Nat → List Nat
  | [] => []
  | _ :: inner => volume inner :: strides inner

/-- The coordinates of a row-major position, each reduced by its own extent. -/
def coordinates : List Nat → Nat → List Nat
  | [], _ => []
  | extent :: inner, position => position / volume inner % extent :: coordinates inner position

def offset (coordinates strides : List Nat) : Nat :=
  (coordinates.zipWith (· * ·) strides).foldr (· + ·) 0

/-- The position under `strides` of the element at a row-major `position` of a tensor with these
extents. No position can be split over an axis of extent zero. -/
def offsetOf (dims strides : List Nat) (position : Nat) : Attempt Nat :=
  if 0 ∈ dims then Attempt.abort else pure (offset (coordinates dims position) strides)

def broadcastExtent? (first second : Nat) : Option Nat :=
  if first = second then some first
  else if first = 1 then some second
  else if second = 1 then some first
  else none

def broadcastInner? : List Nat → List Nat → Option (List Nat)
  | [], second => some second
  | first, [] => some first
  | first :: outerFirst, second :: outerSecond => do
      let extent ← broadcastExtent? first second
      let outer ← broadcastInner? outerFirst outerSecond
      return extent :: outer

/-- The smallest shape that both stretch to, axes aligned at the innermost. -/
def broadcast? (first second : Shape) : Option Shape :=
  (broadcastInner? first.dims.reverse second.dims.reverse).map fun dims => ⟨dims.reverse⟩

/-- The product of the extents that are given, read from left to right. An extent below zero other
than the placeholder -1, and a product too large for a word, are refused. -/
def knownProduct? : List Int → Nat → Option Nat
  | [], product => some product
  | extent :: rest, product =>
      if extent = -1 then knownProduct? rest product
      else if extent < 0 then none
      else if product * extent.toNat < wordLimit then knownProduct? rest (product * extent.toNat)
      else none

/-- The shape of the target extents with the same number of elements. One extent may be the
placeholder -1, which stands for whatever makes the number right. -/
def reshape? (shape : Shape) (target : List Int) : Option Shape := do
  let placeholders := target.count (-1)
  if 1 < placeholders then none
  let product ← knownProduct? target 1
  if placeholders = 1 ∧ (product = 0 ∨ shape.count % product ≠ 0) then none
  let dims := target.map fun extent =>
    if extent = -1 then shape.count / product else extent.toNat
  if volume dims ≠ shape.count ∨ maxRank < dims.length then none
  return ⟨dims⟩

def distinctAxes (rank : Nat) : List Nat → List Nat → Attempt Bool
  | [], _ => pure true
  | axis :: rest, seen =>
      if rank ≤ axis then pure false
      else if maxRank ≤ axis then Attempt.abort
      else if axis ∈ seen then pure false
      else distinctAxes rank rest (axis :: seen)

/-- The shape whose axis `i` is this shape's axis `permutation[i]`. -/
def permute? (shape : Shape) (permutation : List Nat) : Attempt (Option Shape) := do
  if permutation.length ≠ shape.rank then return none
  if ← distinctAxes shape.rank permutation [] then
    return some ⟨permutation.map fun axis => shape.dims.getD axis 1⟩
  else return none

def reduce? (shape : Shape) (axes : List Nat) (keepDims : Bool) : Attempt (Option Shape) := do
  if ← distinctAxes shape.rank axes [] then
    if maxRank < shape.rank then Attempt.abort
    return some ⟨shape.dims.zipIdx.filterMap fun (extent, axis) =>
      if axis ∈ axes then (if keepDims then some 1 else none) else some extent⟩
  else return none

theorem length_strides (dims : List Nat) : (strides dims).length = dims.length := by
  induction dims with
  | nil => rfl
  | cons extent inner ih => simp [strides, ih]

theorem length_coordinates (dims : List Nat) (position : Nat) :
    (coordinates dims position).length = dims.length := by
  induction dims with
  | nil => rfl
  | cons extent inner ih => simp [coordinates, ih]

end Shape

end TensorRuntime
