import TensorRuntime.Proofs.Accumulation
import TensorRuntime.Proofs.Kernel.Safety.FullyConnected

/-!
The order of the additions in a tiled matrix product. Whatever the sizes, the terms of one cell are
added in the order of the inner index, each of them once, so that tiles change no bit of a result.
-/

namespace TensorRuntime

open Attempt

section Tiles

variable {extent : Nat}

theorem firstTiles_flatMap (count extent : Nat) :
    (List.range count).flatMap (fun tile => tilePositions
      (tile * tileSide, min (tile * tileSide + tileSide) extent)) =
        List.range (min (count * tileSide) extent) := by
  induction count with
  | zero => simp
  | succ count ih =>
      rw [List.range_succ, List.flatMap_append, ih, List.flatMap_singleton, tilePositions,
        Nat.add_one_mul]
      dsimp only
      by_cases full : count * tileSide ≤ extent
      · rw [Nat.min_eq_left full, List.range_eq_range', List.range_eq_range']
        rw [show min (count * tileSide + tileSide) extent =
          count * tileSide + (min (count * tileSide + tileSide) extent - count * tileSide) by omega,
          ← List.range'_append_1, Nat.zero_add, Nat.add_sub_cancel_left]
      · rw [Nat.min_eq_right (by omega), Nat.min_eq_right (by omega),
          show extent - count * tileSide = 0 by omega]
        simp

theorem tiles_flatMap (extent : Nat) :
    (tiles extent).flatMap tilePositions = List.range extent := by
  unfold tiles
  rw [List.flatMap_map, firstTiles_flatMap]
  congr 1
  unfold tileSide
  omega

theorem flatMap_tile_of_position {α : Type} {tiles : List (Nat × Nat)} {position : Nat}
    (distinct : (tiles.flatMap tilePositions).Nodup)
    (member : position ∈ tiles.flatMap tilePositions) (found : List α) :
    (tiles.flatMap fun tile => if position ∈ tilePositions tile then found else []) = found := by
  induction tiles with
  | nil => cases member
  | cons tile rest ih =>
      rw [List.flatMap_cons, List.nodup_append] at distinct
      obtain ⟨_, others, apart⟩ := distinct
      rw [List.flatMap_cons]
      by_cases here : position ∈ tilePositions tile
      · have nowhere : (rest.flatMap fun tile =>
            if position ∈ tilePositions tile then found else []) = [] := by
          rw [List.flatMap_eq_nil_iff]
          intro later listed
          exact if_neg fun again => apart position here position
            (List.mem_flatMap.2 ⟨later, listed, again⟩) rfl
        rw [if_pos here, nowhere, List.append_nil]
      · rw [if_neg here, List.nil_append]
        refine ih others ?_
        rw [List.flatMap_cons, List.mem_append] at member
        exact member.resolve_left here

theorem flatMap_tiles {α : Type} {position : Nat} (bound : position < extent) (found : List α) :
    ((tiles extent).flatMap fun tile => if position ∈ tilePositions tile then found else []) =
      found := by
  refine flatMap_tile_of_position ?_ ?_ found
  · rw [tiles_flatMap]
    exact List.nodup_range
  · rw [tiles_flatMap]
    exact List.mem_range.2 bound

end Tiles

section Order

variable {rows columns inner row column : Nat}

theorem flatMap_if {α β : Type} {condition : Prop} [Decidable condition] (items : List α)
    (part : α → List β) :
    (items.flatMap fun item => if condition then part item else []) =
      if condition then items.flatMap part else [] := by
  split <;> simp

theorem flatMap_place {α : Type} {places : List Nat} (distinct : places.Nodup) (place : Nat)
    (found : List α) :
    (places.flatMap fun other => if other = place then found else []) =
      if place ∈ places then found else [] := by
  induction places with
  | nil => rfl
  | cons other rest ih =>
      obtain ⟨fresh, others⟩ := List.nodup_cons.1 distinct
      rw [List.flatMap_cons, ih others]
      by_cases own : other = place
      · subst own
        simp [fresh]
      · simp [own, Ne.symm own]

theorem flatMap_tilePlace {α : Type} (tile : Nat × Nat) (place : Nat) (found : List α) :
    ((tilePositions tile).flatMap fun other => if other = place then found else []) =
      if place ∈ tilePositions tile then found else [] :=
  flatMap_place List.nodup_range' place found

theorem flatMap_range {α : Type} {count place : Nat} (bound : place < count) (found : List α) :
    ((List.range count).flatMap fun other => if other = place then found else []) = found := by
  rw [flatMap_place List.nodup_range, if_pos (List.mem_range.2 bound)]

theorem filter_columns (tile : Nat × Nat) (other index row column : Nat) :
    ((tilePositions tile).map fun place => (other, place, index)).filter
        (fun step => step.1 = row ∧ step.2.1 = column) =
      if column ∈ tilePositions tile then (if other = row then [(row, column, index)] else [])
      else [] := by
  rw [← flatMap_tilePlace, List.map_eq_flatMap, List.filter_flatMap]
  refine List.flatMap_congr fun place _ => ?_
  by_cases own : other = row <;> by_cases here : place = column <;> simp [own, here]

/-- The terms of one cell, in the order of the inner index: tiles leave none out, repeat none and
move none. -/
theorem filter_productSteps (rowBound : row < rows) (columnBound : column < columns) :
    (productSteps rows columns inner).filter (fun step => step.1 = row ∧ step.2.1 = column) =
      (List.range inner).map fun index => (row, column, index) := by
  have terms : (tiles inner).flatMap (fun tile =>
      (tilePositions tile).flatMap fun index => [(row, column, index)]) =
        (List.range inner).map fun index => (row, column, index) := by
    rw [← List.flatMap_assoc, tiles_flatMap, List.map_eq_flatMap]
  simp only [productSteps, List.filter_flatMap, filter_columns, flatMap_if, flatMap_tilePlace,
    flatMap_tiles columnBound, flatMap_tiles rowBound, terms]

def plainSteps (rows columns inner : Nat) : List (Nat × Nat × Nat) :=
  (List.range rows).flatMap fun row =>
    (List.range columns).flatMap fun column =>
      (List.range inner).map fun index => (row, column, index)

theorem bounds_of_plainSteps {step : Nat × Nat × Nat}
    (member : step ∈ plainSteps rows columns inner) :
    step.1 < rows ∧ step.2.1 < columns ∧ step.2.2 < inner := by
  simp only [plainSteps, List.mem_flatMap, List.mem_map, List.mem_range] at member
  obtain ⟨row, rowBound, column, columnBound, index, indexBound, rfl⟩ := member
  exact ⟨rowBound, columnBound, indexBound⟩

theorem filter_plainSteps (rowBound : row < rows) (columnBound : column < columns) :
    (plainSteps rows columns inner).filter (fun step => step.1 = row ∧ step.2.1 = column) =
      (List.range inner).map fun index => (row, column, index) := by
  have cell (other place : Nat) : ((List.range inner).map fun index => (other, place, index)).filter
      (fun step => step.1 = row ∧ step.2.1 = column) =
        if place = column then
          (if other = row then (List.range inner).map fun index => (row, column, index) else [])
        else [] := by
    by_cases own : other = row <;> by_cases here : place = column <;>
      simp [List.filter_map, Function.comp_def, own, here]
  simp only [plainSteps, List.filter_flatMap, cell, flatMap_range columnBound,
    flatMap_range rowBound]

end Order

section Cells

theorem place_eq_iff {columns row column row' column' : Nat} (bound : column < columns)
    (bound' : column' < columns) :
    row * columns + column = row' * columns + column' ↔ row = row' ∧ column = column' := by
  refine ⟨fun same => ?_, fun ⟨rows, columns⟩ => by rw [rows, columns]⟩
  have quotients := congrArg (· / columns) same
  have rests := congrArg (· % columns) same
  simp only [place_div bound, place_div bound'] at quotients
  simp only [place_mod bound, place_mod bound'] at rests
  exact ⟨quotients, rests⟩

variable {rows columns inner : Nat} {first second total : Array Single}
  {steps : List (Nat × Nat × Nat)}

def accumulateTerms (combine : Single → Single → Single → Single) (columns inner : Nat)
    (steps : List (Nat × Nat × Nat)) (first second total : Array Single) :
    Attempt (Array Single) :=
  steps.foldlM (fun total (row, column, index) => do
    let left ← readAt first (row * inner + index)
    let right ← readAt second (index * columns + column)
    let place := row * columns + column
    let sum ← readAt total place
    writeAt total place (combine sum left right)) total

theorem accumulateProduct_eq (first second total : Array Single) (rows columns inner : Nat) :
    accumulateProduct first second total rows columns inner =
      accumulateTerms (fun sum left right => sum + left * right) columns inner
        (productSteps rows columns inner) first second total := rfl

def productCell (combine : Single → Single → Single → Single) (columns inner : Nat)
    (first second : Array Single) (row column : Nat) (start : Single) : Single :=
  (List.range inner).foldl (fun sum index => combine sum (elementAt first (row * inner + index))
    (elementAt second (index * columns + column))) start

theorem accumulateTerms_cells (combine : Single → Single → Single → Single)
    (firstSize : first.size = rows * inner) (secondSize : second.size = inner * columns)
    (totalSize : total.size = rows * columns)
    (bounds : ∀ step ∈ steps, step.1 < rows ∧ step.2.1 < columns ∧ step.2.2 < inner)
    (ordered : ∀ row < rows, ∀ column < columns,
      steps.filter (fun step => step.1 = row ∧ step.2.1 = column) =
        (List.range inner).map fun index => (row, column, index)) :
    ∃ written, accumulateTerms combine columns inner steps first second total = .ok written ∧
      written.size = rows * columns ∧ ∀ row < rows, ∀ column < columns,
        written[row * columns + column]? = some (productCell combine columns inner first second row
          column (elementAt total (row * columns + column))) := by
  let place (step : Nat × Nat × Nat) : Nat := step.1 * columns + step.2.1
  let add (sum : Single) (step : Nat × Nat × Nat) : Single :=
    combine sum (elementAt first (step.1 * inner + step.2.2))
      (elementAt second (step.2.2 * columns + step.2.1))
  have inside : ∀ step ∈ steps, place step < total.size := by
    intro step member
    obtain ⟨row, column, _⟩ := bounds step member
    rw [totalSize]
    exact place_lt row column
  obtain ⟨written, done, size, each⟩ := foldlM_addAt add inside
  refine ⟨written, ?_, size.trans totalSize, fun row rowBound column columnBound => ?_⟩
  · rw [← done]
    unfold accumulateTerms
    refine foldlM_congr (fun step member total => ?_) _
    obtain ⟨row, column, index⟩ := bounds step member
    dsimp only
    rw [readAt_elementAt (firstSize ▸ place_lt row index),
      readAt_elementAt (secondSize ▸ place_lt index column)]
    rfl
  · have cell : steps.filter (fun step => place step = row * columns + column) =
        (List.range inner).map fun index => (row, column, index) := by
      rw [← ordered row rowBound column columnBound]
      refine List.filter_congr fun step member => ?_
      obtain ⟨_, stepColumn, _⟩ := bounds step member
      exact decide_eq_decide.2 (place_eq_iff stepColumn columnBound)
    have held := readAt_eq_ok.1 (readAt_elementAt (totalSize ▸ place_lt rowBound columnBound))
    rw [each, cell, held, Option.map_some, List.foldl_map]
    rfl

theorem eq_of_cells {written written' : Array Single} (size : written.size = rows * columns)
    (size' : written'.size = rows * columns)
    (same : ∀ row < rows, ∀ column < columns,
      written[row * columns + column]? = written'[row * columns + column]?) :
    written = written' := by
  refine Array.ext_getElem? fun position => ?_
  by_cases inside : position < rows * columns
  · have wide : 0 < columns := Nat.pos_of_ne_zero fun none => by simp [none] at inside
    have cell := same (position / columns) ((Nat.div_lt_iff_lt_mul wide).2 inside)
      (position % columns) (Nat.mod_lt _ wide)
    rwa [Nat.div_add_mod'] at cell
  · rw [Array.getElem?_eq_none (by omega), Array.getElem?_eq_none (by omega)]

/-- Tiles change no bit of a product, whatever singles do when they are multiplied and added. -/
theorem tiled_eq_plain (combine : Single → Single → Single → Single)
    (firstSize : first.size = rows * inner) (secondSize : second.size = inner * columns)
    (totalSize : total.size = rows * columns) :
    ∃ written,
      accumulateTerms combine columns inner (productSteps rows columns inner) first second total =
        .ok written ∧
      accumulateTerms combine columns inner (plainSteps rows columns inner) first second total =
        .ok written ∧
      written.size = rows * columns ∧ ∀ row < rows, ∀ column < columns,
        written[row * columns + column]? = some (productCell combine columns inner first second row
          column (elementAt total (row * columns + column))) := by
  obtain ⟨written, done, size, cells⟩ := accumulateTerms_cells combine firstSize secondSize
    totalSize (fun _ => bounds_of_productSteps)
    fun _ rowBound _ columnBound => filter_productSteps rowBound columnBound
  obtain ⟨written', done', size', cells'⟩ := accumulateTerms_cells combine firstSize secondSize
    totalSize (fun _ => bounds_of_plainSteps)
    fun _ rowBound _ columnBound => filter_plainSteps rowBound columnBound
  have same : written = written' := eq_of_cells size size' fun row rowBound column bound =>
    (cells row rowBound column bound).trans (cells' row rowBound column bound).symm
  exact ⟨written, done, same ▸ done', size, cells⟩

end Cells

end TensorRuntime
