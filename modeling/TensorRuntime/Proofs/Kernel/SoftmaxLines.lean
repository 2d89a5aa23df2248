import TensorRuntime.Proofs.Kernel.Frames

/-!
The lines of a softmax. They cover every position of the array, so what it held
before the first line was written does not show after the last one.
-/

namespace TensorRuntime

open Attempt

theorem volume_split {dims : List Nat} {axis length : Nat} (found : dims[axis]? = some length) :
    volume dims = volume (dims.take axis) * length * volume (dims.drop (axis + 1)) := by
  induction dims generalizing axis with
  | nil => simp at found
  | cons extent rest ih =>
      cases axis with
      | zero =>
          cases found
          simp
      | succ axis =>
          have inner := @ih axis (by simpa using found)
          simp only [List.take_succ_cons, List.drop_succ_cons, volume_cons, inner, Nat.mul_assoc]

theorem mem_softmaxLine {length inner outer place : Nat} (bound : place < outer * length * inner) :
    ∃ outerIndex < outer, ∃ innerIndex < inner,
      place ∈ softmaxLine length inner outerIndex innerIndex := by
  have innerPositive : 0 < inner := Nat.pos_of_ne_zero (by rintro rfl; simp at bound)
  have lengthPositive : 0 < length := Nat.pos_of_ne_zero (by rintro rfl; simp at bound)
  refine ⟨place / inner / length, ?_, place % inner, Nat.mod_lt place innerPositive, ?_⟩
  · rw [Nat.div_lt_iff_lt_mul lengthPositive, Nat.div_lt_iff_lt_mul innerPositive]
    exact bound
  · refine List.mem_map.2 ⟨place / inner % length,
      List.mem_range.2 (Nat.mod_lt _ lengthPositive), ?_⟩
    rw [Nat.div_add_mod' (place / inner) length, Nat.div_add_mod' place inner]

structure AgreeAt (places : Nat → Prop) (first second : Array Single) : Prop where
  size : first.size = second.size
  same : ∀ place, places place → first[place]? = second[place]?

def AttemptsAgree (places : Nat → Prop) (first second : Attempt (Array Single)) : Prop :=
  (∃ fault, first = .error fault ∧ second = .error fault) ∨
    ∃ left right, first = .ok left ∧ second = .ok right ∧ AgreeAt places left right

theorem foldlM_write_agree {places : Nat → Prop} (entries : List (Nat × Single))
    {first second : Array Single} (agree : AgreeAt places first second) :
    AttemptsAgree (fun place => places place ∨ place ∈ entries.map Prod.fst)
      (entries.foldlM (fun written entry => writeAt written entry.1 entry.2) first)
      (entries.foldlM (fun written entry => writeAt written entry.1 entry.2) second) := by
  induction entries generalizing places first second with
  | nil => exact .inr ⟨first, second, rfl, rfl, agree.size, by simpa using agree.same⟩
  | cons entry rest ih =>
      rw [List.foldlM_cons, List.foldlM_cons]
      by_cases inside : entry.1 < first.size
      · have step : writeAt first entry.1 entry.2 = .ok (first.setIfInBounds entry.1 entry.2) :=
          if_pos inside
        have step' : writeAt second entry.1 entry.2 =
            .ok (second.setIfInBounds entry.1 entry.2) := if_pos (agree.size ▸ inside)
        have after : AgreeAt (fun place => places place ∨ place = entry.1)
            (first.setIfInBounds entry.1 entry.2) (second.setIfInBounds entry.1 entry.2) := by
          refine ⟨by simp [agree.size], ?_⟩
          intro place covered
          simp only [Array.getElem?_setIfInBounds, agree.size]
          by_cases here : entry.1 = place
          · simp [here]
          · rw [if_neg here, if_neg here]
            exact agree.same place (covered.resolve_right (Ne.symm here))
        rw [step, step']
        change AttemptsAgree _ (rest.foldlM _ _) (rest.foldlM _ _)
        simpa [or_assoc] using ih after
      · have step : writeAt first entry.1 entry.2 = .error .aborted := if_neg inside
        have step' : writeAt second entry.1 entry.2 = .error .aborted :=
          if_neg (agree.size ▸ inside)
        rw [step, step']
        exact .inl ⟨.aborted, rfl, rfl⟩

theorem foldlM_lines_agree {places : Nat → Prop} (values : Array Single) (lines : List (List Nat))
    {first second : Array Single} (agree : AgreeAt places first second) :
    let store (written : Array Single) (line : List Nat) : Attempt (Array Single) := do
      let read ← line.mapM (readAt values)
      (line.zip (softmaxOfLine read)).foldlM
        (fun written entry => writeAt written entry.1 entry.2) written
    AttemptsAgree (fun place => places place ∨ ∃ line ∈ lines, place ∈ line)
      (lines.foldlM store first) (lines.foldlM store second) := by
  intro store
  induction lines generalizing places first second with
  | nil => exact .inr ⟨first, second, rfl, rfl, agree.size, by simpa using agree.same⟩
  | cons line rest ih =>
      rw [List.foldlM_cons, List.foldlM_cons]
      cases read : line.mapM (readAt values) with
      | error fault =>
          have stopped : ∀ written, store written line = .error fault := by
            intro written
            simp only [store, read]
            rfl
          rw [stopped, stopped]
          exact .inl ⟨fault, rfl, rfl⟩
      | ok found =>
          have length : line.length = (softmaxOfLine found).length := by
            have lengths := congrArg List.length (mapM_eq_ok.1 read)
            simpa [softmaxOfLine] using lengths
          have stored : ∀ written, store written line =
              (line.zip (softmaxOfLine found)).foldlM
                (fun written entry => writeAt written entry.1 entry.2) written := by
            intro written
            simp only [store, read]
            rfl
          rw [stored, stored]
          obtain ⟨fault, failed, failed'⟩ | ⟨left, right, done, done', after⟩ :=
            foldlM_write_agree (line.zip (softmaxOfLine found)) agree
          · rw [failed, failed']
            exact .inl ⟨fault, rfl, rfl⟩
          · rw [done, done']
            rw [List.map_fst_zip (Nat.le_of_eq length)] at after
            change AttemptsAgree _ (rest.foldlM _ _) (rest.foldlM _ _)
            simpa [or_assoc] using ih after

theorem softmaxInto_size {values old old' : Array Single} {dims : List Nat} {axis : Nat}
    (size : old'.size = old.size) (whole : old.size = volume dims) :
    softmaxInto values dims axis old' = softmaxInto values dims axis old := by
  unfold softmaxInto
  cases found : dims[axis]? with
  | none => rfl
  | some length =>
      dsimp only
      have start : AgreeAt (fun _ => False) old' old := ⟨size, fun _ nowhere => nowhere.elim⟩
      obtain ⟨fault, failed, failed'⟩ | ⟨left, right, done, done', after⟩ :=
        foldlM_lines_agree values ((List.range (volume (dims.take axis))).flatMap fun outerIndex =>
          (List.range (volume (dims.drop (axis + 1)))).map fun innerIndex =>
            softmaxLine length (volume (dims.drop (axis + 1))) outerIndex innerIndex) start
      · exact failed.trans failed'.symm
      · have rightSize : right.size = old.size := by
          refine @size_of_softmaxInto values old right dims axis ?_
          unfold softmaxInto
          rw [found]
          exact done'
        have same : left = right := by
          apply Array.ext_getElem?
          intro place
          by_cases inside : place < right.size
          · apply after.same
            rw [rightSize, whole, volume_split found] at inside
            obtain ⟨outerIndex, outerBound, innerIndex, innerBound, member⟩ :=
              mem_softmaxLine inside
            refine .inr ⟨_, ?_, member⟩
            simp only [List.mem_flatMap, List.mem_map, List.mem_range]
            exact ⟨outerIndex, outerBound, innerIndex, innerBound, rfl⟩
          · rw [Array.getElem?_eq_none (by rw [after.size]; omega),
              Array.getElem?_eq_none (by omega)]
        subst same
        exact done.trans done'.symm

end TensorRuntime
