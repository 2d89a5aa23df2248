import TensorRuntime.Kernel.Lanes
import TensorRuntime.Proofs.Kernel.Reading

/-!
Rows of lanes, channel by channel. Runs of one length are paired position by position,
whatever the lane width, so a loop over rows is one loop for each channel, and rows
laid side by side are the elements in their order.
-/

namespace TensorRuntime

open Attempt

section Pairing

variable {lanes size position : Nat} {others : List Nat}

theorem lanePartners?_aligned (wide : 0 < lanes) (bound : position < size)
    (aligned : ∀ other ∈ others, other = size) :
    lanePartners? lanes size others position = some (others.map fun _ => position) := by
  have split := Nat.div_add_mod' size lanes
  unfold lanePartners?
  by_cases whole : position < size / lanes * lanes
  · have group : position / lanes < size / lanes := (Nat.div_lt_iff_lt_mul wide).2 whole
    have paired : (others.all fun other => decide (position / lanes < other / lanes)) = true := by
      rw [List.all_eq_true]
      intro other member
      rw [aligned other member]
      exact decide_eq_true group
    rw [if_pos whole, if_pos paired]
  · have paired : (others.all fun other =>
        decide (position - size / lanes * lanes < other % lanes)) = true := by
      rw [List.all_eq_true]
      intro other member
      rw [aligned other member]
      exact decide_eq_true (by omega)
    rw [if_neg whole]
    dsimp only
    rw [if_pos paired]
    congr 1
    apply List.map_congr_left
    intro other member
    rw [aligned other member]
    omega

theorem blockPartners?_aligned (wide : 0 < lanes) (bound : position < size)
    (aligned : ∀ other ∈ others, other = size) :
    blockPartners? lanes size others position = some (others.map fun _ => position) := by
  have blockWide : 0 < 64 * lanes := by omega
  have start := Nat.div_mul_le_self position (64 * lanes)
  have stop := Nat.lt_div_mul_add blockWide (a := position)
  have reached : (others.all fun other =>
      decide (position / (64 * lanes) * (64 * lanes) < other)) = true := by
    rw [List.all_eq_true]
    intro other member
    rw [aligned other member]
    exact decide_eq_true (by omega)
  unfold blockPartners?
  dsimp only
  rw [if_pos reached, lanePartners?_aligned wide (by omega), Option.map_some, List.map_map,
    List.map_map]
  · congr 1
    apply List.map_congr_left
    intro other _
    dsimp only [Function.comp]
    omega
  · intro other member
    obtain ⟨original, listed, rfl⟩ := List.mem_map.1 member
    rw [aligned original listed]

end Pairing

section Rows

variable {lanes width : Nat}

theorem updateRow_arrayOf (wide : 0 < lanes) (sums : Nat → Single)
    (others : List (Nat → Single)) (combine : Single → List Single → Single) :
    updateRow lanes (arrayOf width sums) (others.map fun other => arrayOf width other) combine =
      .ok (arrayOf width fun channel =>
        combine (sums channel) (others.map fun other => other channel)) := by
  unfold updateRow
  rw [size_of_arrayOf]
  apply tabulate_of_ok
  intro channel bound
  have aligned : ∀ size ∈ (others.map fun other => arrayOf width other).map Array.size,
      size = width := by
    intro size member
    simp only [List.map_map, List.mem_map, Function.comp, size_of_arrayOf] at member
    obtain ⟨_, _, rfl⟩ := member
    rfl
  rw [readAt_arrayOf sums bound, lanePartners?_aligned wide bound aligned]
  have reads : ((others.map fun other => arrayOf width other).zip
      (((others.map fun other => arrayOf width other).map Array.size).map fun _ => channel)).mapM
        (fun entry => readAt entry.1 entry.2) =
      .ok (others.map fun other => other channel) := by
    induction others with
    | nil => rfl
    | cons other rest ih =>
        simp only [List.map_cons, List.zip_cons_cons, List.mapM_cons, readAt_arrayOf other bound]
        rw [ih fun size member => aligned size (List.mem_cons_of_mem _ member)]
        rfl
  exact bind_eq_ok.2 ⟨sums channel, rfl, bind_eq_ok.2 ⟨_, reads, rfl⟩⟩

/-- A loop over rows whose steps work channel by channel is one loop for each channel. -/
theorem foldlM_rows {α : Type} {items : List α} {step : Row → α → Attempt Row}
    (next : Nat → Single → α → Single)
    (each : ∀ item ∈ items, ∀ sums : Nat → Single, step (arrayOf width sums) item =
      .ok (arrayOf width fun channel => next channel (sums channel) item))
    (start : Nat → Single) :
    items.foldlM step (arrayOf width start) =
      .ok (arrayOf width fun channel => items.foldl (next channel) (start channel)) := by
  induction items generalizing start with
  | nil => rfl
  | cons item rest ih =>
      rw [List.foldlM_cons, each item (by simp)]
      exact ih (fun later member => each later (by simp [member])) _

theorem concat_arrayOf (width count : Nat) (value : Nat → Single) :
    ((List.range count).map fun pixel =>
      arrayOf width fun channel => value (pixel * width + channel)).foldl (· ++ ·) #[] =
      arrayOf (count * width) value := by
  induction count with
  | zero => simp [arrayOf]
  | succ count ih =>
      rw [List.range_succ, List.map_append, List.foldl_append, ih]
      simp only [List.map_cons, List.map_nil, List.foldl_cons, List.foldl_nil]
      unfold arrayOf
      rw [Nat.add_one_mul, List.range_add, List.map_append, List.map_map]
      simp [Function.comp_def]

theorem tabulateRows_of_ok {image : ImageDims} {old : Array Single} {pixels : Nat}
    {rowAt : Nat → Nat → Nat → Nat → Attempt Row} {value : Nat → Single} (wide : 0 < width)
    (imageHeight : 0 < image.height) (imageWidth : 0 < image.width)
    (size : old.size = pixels * width)
    (rows : ∀ pixel < pixels, rowAt width (pixel / (image.width * image.height))
      (pixel / image.width % image.height) (pixel % image.width) =
        .ok (arrayOf width fun channel => value (pixel * width + channel))) :
    tabulateRows width image old rowAt = .ok (arrayOf old.size value) := by
  have count : (old.size + width - 1) / width = pixels := by
    rw [size, Nat.add_sub_assoc wide, Nat.add_comm, Nat.add_mul_div_right _ _ wide,
      Nat.div_eq_of_lt (by omega), Nat.zero_add]
  have allRows : (List.range ((old.size + width - 1) / width)).mapM (fun pixel => do
      nonzero image.width
      nonzero image.height
      rowAt (min width (old.size - pixel * width)) (pixel / (image.width * image.height))
        (pixel / image.width % image.height) (pixel % image.width)) =
      .ok ((List.range pixels).map fun pixel =>
        arrayOf width fun channel => value (pixel * width + channel)) := by
    rw [count]
    apply mapM_of_ok
    intro pixel member
    have bound := List.mem_range.1 member
    have full : min width (old.size - pixel * width) = width := by
      have room : (pixel + 1) * width ≤ pixels * width := Nat.mul_le_mul_right width bound
      rw [Nat.add_one_mul] at room
      omega
    rw [full, nonzero, nonzero, if_neg (by omega), if_neg (by omega)]
    exact rows pixel bound
  unfold tabulateRows
  rw [nonzero, if_neg (by omega), allRows, size, ← concat_arrayOf]
  rfl

end Rows

end TensorRuntime
