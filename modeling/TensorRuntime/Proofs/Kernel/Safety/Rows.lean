import TensorRuntime.Proofs.Kernel.ImageBounds
import TensorRuntime.Proofs.Kernel.Safety.Calls

/-!
Rows of lanes never abort by themselves. A position is only paired with positions inside
the other runs, whatever their lengths, and the rows of an output that is a whole number
of pixels all have the full width.
-/

namespace TensorRuntime

open Attempt

section Pairing

variable {lanes size position : Nat} {others places : List Nat}

abbrev Inside (places extents : List Nat) : Prop := List.Forall₂ (· < ·) places extents

theorem inside_map {place : Nat → Nat} (below : ∀ other ∈ others, place other < other) :
    Inside (others.map place) others := by
  induction others with
  | nil => exact .nil
  | cons other rest ih =>
      exact .cons (below other (by simp)) (ih fun later member => below later (by simp [member]))

theorem lanePartners?_inside (found : lanePartners? lanes size others position = some places) :
    Inside places others := by
  unfold lanePartners? at found
  split at found
  · rename_i whole
    split at found
    · rename_i paired
      cases found
      rw [List.all_eq_true] at paired
      refine inside_map fun other member => ?_
      have group : position / lanes < other / lanes := by simpa using paired other member
      have wide : 0 < lanes := Nat.pos_of_ne_zero fun none => by simp [none] at group
      have reach := (Nat.div_lt_iff_lt_mul wide).1 group
      exact Nat.lt_of_lt_of_le reach (Nat.div_mul_le_self other lanes)
    · cases found
  · dsimp only at found
    split at found
    · rename_i paired
      cases found
      rw [List.all_eq_true] at paired
      refine inside_map fun other member => ?_
      have rest : position - size / lanes * lanes < other % lanes := by
        simpa using paired other member
      have split := Nat.div_add_mod' other lanes
      omega
    · cases found

theorem blockPartners?_inside (found : blockPartners? lanes size others position = some places) :
    Inside places others := by
  unfold blockPartners? at found
  dsimp only at found
  split at found
  · obtain ⟨shifted, paired, rfl⟩ := Option.map_eq_some_iff.1 found
    have inside := List.forall₂_map_right_iff.1 (lanePartners?_inside paired)
    refine List.forall₂_map_left_iff.2 (inside.imp fun place other below => ?_)
    omega
  · cases found

end Pairing

theorem safe_readAll {values : List (Array Single)} {places : List Nat}
    (inside : Inside places (values.map Array.size)) :
    ((values.zip places).mapM fun entry => readAt entry.1 entry.2).Safe := by
  apply safe_mapM
  induction values generalizing places with
  | nil =>
      intro entry impossible
      cases impossible
  | cons first rest ih =>
      cases inside with
      | cons below later =>
          intro entry member
          rw [List.zip_cons_cons, List.mem_cons] at member
          rcases member with rfl | member
          · exact safe_readAt below
          · exact ih later entry member

theorem safe_updateRow {lanes : Nat} {row : Row} {others : List (Array Single)}
    {combine : Single → List Single → Single} : (updateRow lanes row others combine).Safe := by
  refine safe_tabulate fun index bound => (safe_readAt bound).bind fun value _ => ?_
  split
  · rename_i places paired
    exact (safe_readAll (lanePartners?_inside paired)).bind fun _ _ => safe_pure _
  · exact safe_pure value

theorem safe_startRow {bias : Option (Array Single)} {size : Nat}
    (biasSize : ∀ start, bias = some start → start.size = size) : (startRow bias size).Safe := by
  cases bias with
  | none => exact safe_pure _
  | some start =>
      unfold startRow
      dsimp only
      rw [if_pos (biasSize start rfl)]
      exact safe_pure _

theorem safe_tabulateRows {image : ImageDims} {old : Array Single}
    {rowAt : Nat → Nat → Nat → Nat → Attempt Row} (size : old.size = image.count)
    (wide : 0 < image.channels)
    (rows : ∀ batch < image.batch, ∀ row column, (rowAt image.channels batch row column).Safe) :
    (tabulateRows image.channels image old rowAt).Safe := by
  have pixels : old.size = image.batch * image.height * image.width * image.channels := by
    rw [size, ImageDims.count]
    ac_rfl
  have count : (old.size + image.channels - 1) / image.channels =
      image.batch * image.height * image.width := by
    rw [pixels, Nat.add_sub_assoc wide, Nat.add_comm, Nat.add_mul_div_right _ _ wide,
      Nat.div_eq_of_lt (by omega), Nat.zero_add]
  unfold tabulateRows
  rw [count]
  refine (safe_nonzero wide).bind fun _ _ => Safe.bind (safe_mapM fun pixel member => ?_)
    fun _ _ => safe_pure _
  have bound := List.mem_range.1 member
  have positive : 0 < image.batch * image.height * image.width := by omega
  have width := Nat.pos_of_mul_pos_left positive
  have height := Nat.pos_of_mul_pos_left (Nat.pos_of_mul_pos_right positive)
  refine (safe_nonzero width).bind fun _ _ => (safe_nonzero height).bind fun _ _ => ?_
  have whole : min image.channels (old.size - pixel * image.channels) = image.channels := by
    have fits := Nat.mul_le_mul_right image.channels (show pixel + 1 ≤ _ from bound)
    rw [Nat.add_one_mul, ← pixels] at fits
    omega
  rw [whole]
  refine rows _ ?_ _ _
  rw [Nat.div_lt_iff_lt_mul (Nat.mul_pos width height)]
  refine Nat.lt_of_lt_of_eq bound ?_
  ac_rfl

theorem width_of_tabulateRows {width : Nat} {image : ImageDims} {old written : Array Single}
    {rowAt : Nat → Nat → Nat → Nat → Attempt Row}
    (done : tabulateRows width image old rowAt = .ok written) : 0 < width := by
  obtain ⟨_, divided, _⟩ := bind_eq_ok.1 done
  exact pos_of_nonzero divided

end TensorRuntime
