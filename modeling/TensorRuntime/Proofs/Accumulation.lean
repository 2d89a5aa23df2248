import TensorRuntime.Proofs.Kernel.Reading

/-!
Loops over the elements of an array in place, where each item chooses its element. In the end an
element holds what the items that chose it make of its first value, one after the other, whatever
the addition is; where items overwrite and all choose differently, it holds the value of its item.
-/

namespace TensorRuntime

open Attempt

section Accumulation

variable {α ι : Type} {place : ι → Nat} {add : α → ι → α} {item : ι} {items : List ι}
  {totals : Array α}

def addAt (place : ι → Nat) (add : α → ι → α) (totals : Array α) (item : ι) :
    Attempt (Array α) := do
  let total ← readAt totals (place item)
  writeAt totals (place item) (add total item)

theorem addAt_ok (inside : place item < totals.size) :
    addAt place add totals item = .ok (totals.modify (place item) fun total => add total item) := by
  unfold addAt writeAt
  rw [readAt_of_lt inside]
  change (if place item < totals.size then _ else _) = _
  rw [if_pos inside, pure_eq_ok]
  refine Array.ext_getElem? fun position => ?_
  rw [Array.getElem?_setIfInBounds, Array.getElem?_modify]
  by_cases own : place item = position
  · subst own
    simp [inside]
  · simp [own]

theorem foldlM_addAt (add : α → ι → α) (inside : ∀ item ∈ items, place item < totals.size) :
    ∃ written, items.foldlM (addAt place add) totals = .ok written ∧
      written.size = totals.size ∧
      ∀ position : Nat, written[position]? = totals[position]?.map fun total =>
        (items.filter fun item => place item = position).foldl add total := by
  induction items generalizing totals with
  | nil => exact ⟨totals, rfl, rfl, fun position => by simp⟩
  | cons item rest ih =>
      have size : (totals.modify (place item) fun total => add total item).size = totals.size :=
        Array.size_modify
      have later : ∀ other ∈ rest, place other <
          (totals.modify (place item) fun total => add total item).size :=
        fun other member => size ▸ inside other (by simp [member])
      obtain ⟨written, done, sameSize, each⟩ := ih later
      refine ⟨written, ?_, sameSize.trans size, fun position => ?_⟩
      · rw [List.foldlM_cons, addAt_ok (inside item (by simp))]
        exact done
      · rw [each, Array.getElem?_modify, List.filter_cons]
        by_cases own : place item = position
        · simp [own, Function.comp_def]
        · simp [own]

end Accumulation

section Scattering

variable {α ι : Type} {place : ι → Nat} {items : List ι} {old : Array α}

theorem foldlM_scatter (value : ι → α) (inside : ∀ item ∈ items, place item < old.size)
    (distinct : (items.map place).Nodup) :
    ∃ written, items.foldlM (fun written item => writeAt written (place item) (value item)) old =
        .ok written ∧
      written.size = old.size ∧
      (∀ item ∈ items, written[place item]? = some (value item)) ∧
      ∀ position, position ∉ items.map place → written[position]? = old[position]? := by
  induction items generalizing old with
  | nil => exact ⟨old, rfl, rfl, nofun, fun _ _ => rfl⟩
  | cons item rest ih =>
      obtain ⟨fresh, others⟩ := List.nodup_cons.1 distinct
      have own := inside item (by simp)
      have step : writeAt old (place item) (value item) =
          .ok (old.setIfInBounds (place item) (value item)) := if_pos own
      have later : ∀ other ∈ rest,
          place other < (old.setIfInBounds (place item) (value item)).size :=
        fun other member => by simpa using inside other (by simp [member])
      obtain ⟨written, done, size, held, kept⟩ := ih later others
      refine ⟨written, ?_, by simpa using size, ?_, ?_⟩
      · rw [List.foldlM_cons, step]
        exact done
      · intro other member
        rcases List.mem_cons.1 member with rfl | member
        · rw [kept _ fresh, Array.getElem?_setIfInBounds_self_of_lt own]
        · exact held other member
      · intro position absent
        rw [List.map_cons, List.mem_cons, not_or] at absent
        rw [kept position absent.2, Array.getElem?_setIfInBounds_ne (Ne.symm absent.1)]

end Scattering

end TensorRuntime
