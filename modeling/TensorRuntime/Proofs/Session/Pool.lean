import TensorRuntime.Proofs.Frame
import TensorRuntime.Session

/-!
The pool of tensors while an operator runs. Its outputs leave their slots and come
back to them, so as long as they are distinct and known, and the operator keeps
their frames, the pool is as full and as framed after the run as it was before.
-/

namespace TensorRuntime

namespace Session

def slotFrames (slots : List (Option Tensor)) : List (Option Frame) :=
  slots.map fun slot => slot.map Tensor.frame

section Fetch

variable {slots slots' : List (Option Tensor)} {ids : List TensorId} {tensors : List Tensor}

theorem length_of_slotFrames (same : slotFrames slots' = slotFrames slots) :
    slots'.length = slots.length := by
  simpa [slotFrames] using congrArg List.length same

theorem exists_of_slotFrames (same : slotFrames slots' = slotFrames slots) {id : TensorId}
    {tensor : Tensor} (held : slots[id]? = some (some tensor)) :
    ∃ tensor', slots'[id]? = some (some tensor') ∧ tensor'.frame = tensor.frame := by
  have place := congrArg (fun frames => frames[id]?) same
  simp only [slotFrames, List.getElem?_map, held, Option.map_some] at place
  obtain ⟨slot, held', frame⟩ := Option.map_eq_some_iff.1 place
  obtain ⟨tensor', rfl, sameFrame⟩ := Option.map_eq_some_iff.1 frame
  exact ⟨tensor', held', sameFrame⟩

theorem fetch_cons (id : TensorId) (rest : List TensorId) :
    fetch slots (id :: rest) = .ok tensors ↔
      ∃ tensor others, slots[id]? = some (some tensor) ∧ fetch slots rest = .ok others ∧
        tensors = tensor :: others := by
  rw [fetch]
  cases found : slots[id]?.join with
  | none =>
      constructor
      · intro impossible
        cases impossible
      · rintro ⟨tensor, others, held, _⟩
        rw [held] at found
        cases found
  | some tensor =>
      have held : slots[id]? = some (some tensor) := by
        cases slot : slots[id]? with
        | none => simp [slot] at found
        | some content => simpa [slot] using found
      dsimp only
      rw [Attempt.map_eq_ok, held]
      constructor
      · rintro ⟨others, fetched, rfl⟩
        exact ⟨tensor, others, rfl, fetched, rfl⟩
      · rintro ⟨tensor', others, same, fetched, rfl⟩
        cases same
        exact ⟨others, fetched, rfl⟩

theorem fetch_length (fetched : fetch slots ids = .ok tensors) : tensors.length = ids.length := by
  induction ids generalizing tensors with
  | nil =>
      cases fetched
      rfl
  | cons id rest ih =>
      obtain ⟨tensor, others, _, remaining, rfl⟩ := (fetch_cons id rest).1 fetched
      simp [ih remaining]

theorem fetch_held (fetched : fetch slots ids = .ok tensors) :
    ∀ id ∈ ids, ∃ tensor, slots[id]? = some (some tensor) := by
  induction ids generalizing tensors with
  | nil => simp
  | cons id rest ih =>
      obtain ⟨tensor, others, held, remaining, rfl⟩ := (fetch_cons id rest).1 fetched
      intro other member
      rcases List.mem_cons.1 member with rfl | later
      · exact ⟨tensor, held⟩
      · exact ih remaining other later

theorem fetch_known (fetched : fetch slots ids = .ok tensors) :
    ∀ id ∈ ids, id < slots.length := by
  intro id member
  obtain ⟨_, held⟩ := fetch_held fetched id member
  exact (List.getElem?_eq_some_iff.1 held).1

theorem fetch_member (fetched : fetch slots ids = .ok tensors) {tensor : Tensor}
    (member : tensor ∈ tensors) : some tensor ∈ slots := by
  induction ids generalizing tensors with
  | nil =>
      cases fetched
      cases member
  | cons id rest ih =>
      obtain ⟨first, others, held, remaining, rfl⟩ := (fetch_cons id rest).1 fetched
      rcases List.mem_cons.1 member with rfl | later
      · exact List.mem_of_getElem? held
      · exact ih remaining later

theorem fetch_congr (agree : ∀ id ∈ ids, slots'[id]? = slots[id]?) :
    fetch slots' ids = fetch slots ids := by
  induction ids with
  | nil => rfl
  | cons id rest ih =>
      rw [fetch, fetch, agree id (by simp), ih fun other member => agree other (by simp [member])]

theorem fetch_set {id : TensorId} (fresh : id ∉ ids) (slot : Option Tensor) :
    fetch (slots.set id slot) ids = fetch slots ids := by
  apply fetch_congr
  intro other member
  apply List.getElem?_set_ne
  rintro rfl
  exact fresh member

theorem fetch_frames (same : slotFrames slots' = slotFrames slots)
    (fetched : fetch slots ids = .ok tensors) :
    ∃ tensors', fetch slots' ids = .ok tensors' ∧
      tensors'.map Tensor.frame = tensors.map Tensor.frame := by
  induction ids generalizing tensors with
  | nil =>
      cases fetched
      exact ⟨[], rfl, rfl⟩
  | cons id rest ih =>
      obtain ⟨tensor, others, held, remaining, rfl⟩ := (fetch_cons id rest).1 fetched
      obtain ⟨others', fetched', frames⟩ := ih remaining
      obtain ⟨tensor', held', sameFrame⟩ := exists_of_slotFrames same held
      exact ⟨tensor' :: others', (fetch_cons id rest).2 ⟨tensor', others', held', fetched', rfl⟩,
        by simp [sameFrame, frames]⟩

end Fetch

section Restore

variable {slots slots' : List (Option Tensor)}

theorem restore_other {ids : List TensorId} {tensors : List Tensor} {place : TensorId}
    (outside : place ∉ ids) : (restore slots ids tensors)[place]? = slots[place]? := by
  induction ids generalizing slots tensors with
  | nil => rfl
  | cons id rest ih =>
      cases tensors with
      | nil => rfl
      | cons tensor others =>
          simp only [List.mem_cons, not_or] at outside
          rw [restore, ih outside.2, List.getElem?_set_ne (Ne.symm outside.1)]

theorem restore_congr {ids : List TensorId} {tensors : List Tensor}
    (lengths : ids.length = tensors.length) (sizes : slots'.length = slots.length)
    (agree : ∀ place, place ∉ ids → slots'[place]? = slots[place]?) :
    restore slots' ids tensors = restore slots ids tensors := by
  induction ids generalizing slots slots' tensors with
  | nil =>
      apply List.ext_getElem?
      intro place
      exact agree place (by simp)
  | cons id rest ih =>
      cases tensors with
      | nil => cases lengths
      | cons tensor others =>
          rw [restore, restore]
          apply ih (by simpa using lengths) (by simpa using sizes)
          intro place outside
          by_cases here : place = id
          · subst here
            rw [List.getElem?_set_self', List.getElem?_set_self']
            by_cases inside : place < slots.length
            · rw [List.getElem?_eq_getElem (sizes ▸ inside), List.getElem?_eq_getElem inside]
              rfl
            · rw [List.getElem?_eq_none (Nat.le_of_not_lt (sizes ▸ inside)),
                List.getElem?_eq_none (Nat.le_of_not_lt inside)]
          · rw [List.getElem?_set_ne (Ne.symm here), List.getElem?_set_ne (Ne.symm here)]
            exact agree place (by simp [here, outside])

theorem fetch_restore {ids : List TensorId} {tensors : List Tensor} (distinct : ids.Nodup)
    (known : ∀ id ∈ ids, id < slots.length) (lengths : ids.length = tensors.length) :
    fetch (restore slots ids tensors) ids = .ok tensors := by
  induction ids generalizing slots tensors with
  | nil =>
      cases tensors with
      | nil => rfl
      | cons => cases lengths
  | cons id rest ih =>
      cases tensors with
      | nil => cases lengths
      | cons tensor others =>
          obtain ⟨fresh, distinct⟩ := List.nodup_cons.1 distinct
          refine (fetch_cons id rest).2 ⟨tensor, others, ?_, ?_, rfl⟩
          · rw [restore, restore_other fresh]
            simp [known id (by simp)]
          · exact ih distinct (by simpa using fun other member => known other (by simp [member]))
              (by simpa using lengths)

def slotReads {α : Type} (read : Tensor → α) (slots : List (Option Tensor)) : List (Option α) :=
  slots.map (Option.map read)

theorem slotReads_set {α : Type} {read : Tensor → α} {id : TensorId} {held tensor : Tensor}
    (before : slots[id]? = some (some held)) (same : read tensor = read held) :
    slotReads read (slots.set id (some tensor)) = slotReads read slots := by
  apply List.ext_getElem?
  intro place
  simp only [slotReads, List.getElem?_map]
  by_cases here : id = place
  · subst here
    obtain ⟨bound, content⟩ := List.getElem?_eq_some_iff.1 before
    simp [bound, content, same]
  · rw [List.getElem?_set_ne here]

theorem slotReads_restore {α : Type} {read : Tensor → α} {ids : List TensorId}
    {held tensors : List Tensor} (distinct : ids.Nodup) (fetched : fetch slots ids = .ok held)
    (same : tensors.map read = held.map read) :
    slotReads read (restore slots ids tensors) = slotReads read slots := by
  induction ids generalizing slots tensors held with
  | nil => rfl
  | cons id rest ih =>
      obtain ⟨first, others, before, remaining, rfl⟩ := (fetch_cons id rest).1 fetched
      obtain ⟨fresh, distinct⟩ := List.nodup_cons.1 distinct
      cases tensors with
      | nil => cases same
      | cons tensor tensors =>
          simp only [List.map_cons, List.cons.injEq] at same
          rw [restore, ih distinct ((fetch_set fresh _).trans remaining) same.2,
            slotReads_set before same.1]

theorem slotFrames_set {id : TensorId} {held tensor : Tensor}
    (before : slots[id]? = some (some held)) (frame : tensor.frame = held.frame) :
    slotFrames (slots.set id (some tensor)) = slotFrames slots := slotReads_set before frame

theorem slotFrames_restore {ids : List TensorId} {held tensors : List Tensor}
    (distinct : ids.Nodup) (fetched : fetch slots ids = .ok held)
    (frames : tensors.map Tensor.frame = held.map Tensor.frame) :
    slotFrames (restore slots ids tensors) = slotFrames slots :=
  slotReads_restore distinct fetched frames

end Restore

def clear (slots : List (Option Tensor)) (ids : List TensorId) : List (Option Tensor) :=
  ids.foldl (fun slots id => slots.set id none) slots

theorem length_clear (slots : List (Option Tensor)) (ids : List TensorId) :
    (clear slots ids).length = slots.length := by
  induction ids generalizing slots with
  | nil => rfl
  | cons id rest ih =>
      change (clear (slots.set id none) rest).length = _
      rw [ih]
      simp

theorem clear_other {slots : List (Option Tensor)} {ids : List TensorId} {place : TensorId}
    (outside : place ∉ ids) : (clear slots ids)[place]? = slots[place]? := by
  induction ids generalizing slots with
  | nil => rfl
  | cons id rest ih =>
      simp only [List.mem_cons, not_or] at outside
      change (clear (slots.set id none) rest)[place]? = _
      rw [ih outside.2, List.getElem?_set_ne (Ne.symm outside.1)]

theorem takeOutputs_other {slots : List (Option Tensor)} {ids : List TensorId} {place : TensorId}
    (outside : place ∉ ids) : (takeOutputs slots ids).1[place]? = slots[place]? := by
  induction ids generalizing slots with
  | nil => rfl
  | cons id rest ih =>
      simp only [List.mem_cons, not_or] at outside
      rw [takeOutputs]
      split
      · rfl
      · dsimp only
        rw [ih outside.2, List.getElem?_set_ne (Ne.symm outside.1)]

theorem takeOutputs_eq {slots : List (Option Tensor)} {ids : List TensorId}
    {tensors : List Tensor} (distinct : ids.Nodup) (fetched : fetch slots ids = .ok tensors) :
    takeOutputs slots ids = (clear slots ids, tensors, .ok ()) := by
  induction ids generalizing slots tensors with
  | nil =>
      cases fetched
      rfl
  | cons id rest ih =>
      obtain ⟨tensor, others, held, remaining, rfl⟩ := (fetch_cons id rest).1 fetched
      obtain ⟨fresh, distinct⟩ := List.nodup_cons.1 distinct
      rw [takeOutputs, held]
      simp only [Option.join_some]
      rw [ih distinct ((fetch_set fresh none).trans remaining)]
      rfl

theorem takeOutputs_taken (slots : List (Option Tensor)) (ids : List TensorId) :
    let taken := (takeOutputs slots ids).2.1
    (ids.take taken.length).Nodup ∧ fetch slots (ids.take taken.length) = .ok taken ∧
      (takeOutputs slots ids).1 = clear slots (ids.take taken.length) ∧
      ((takeOutputs slots ids).2.2 = .ok () → taken.length = ids.length) := by
  induction ids generalizing slots with
  | nil => exact ⟨List.nodup_nil, rfl, rfl, fun _ => rfl⟩
  | cons id rest ih =>
      rw [takeOutputs]
      cases held : slots[id]?.join with
      | none => exact ⟨List.nodup_nil, rfl, rfl, fun impossible => by cases impossible⟩
      | some tensor =>
          obtain ⟨distinct, fetched, cleared, lengths⟩ := ih (slots.set id none)
          have fresh : id ∉ rest.take (takeOutputs (slots.set id none) rest).2.1.length := by
            intro again
            obtain ⟨_, impossible⟩ := fetch_held fetched id again
            simp [List.getElem?_set] at impossible
          have unmoved : fetch slots (rest.take (takeOutputs (slots.set id none) rest).2.1.length) =
              .ok (takeOutputs (slots.set id none) rest).2.1 :=
            (fetch_set fresh none).symm.trans fetched
          simp only [List.length_cons, List.take_succ_cons]
          refine ⟨List.nodup_cons.2 ⟨fresh, distinct⟩, ?_, cleared, fun done => ?_⟩
          · exact (fetch_cons id _).2 ⟨tensor, _, Option.join_eq_some_iff.1 held, unmoved, rfl⟩
          · rw [lengths done]

theorem restore_take {slots : List (Option Tensor)} {ids : List TensorId} {tensors : List Tensor} :
    restore slots ids tensors = restore slots (ids.take tensors.length) tensors := by
  induction ids generalizing slots tensors with
  | nil => rw [List.take_nil]
  | cons id rest ih =>
      cases tensors with
      | nil => rfl
      | cons tensor others =>
          rw [List.length_cons, List.take_succ_cons, restore, restore]
          exact ih

theorem restore_takeOutputs {slots : List (Option Tensor)} {ids : List TensorId}
    {tensors : List Tensor} (lengths : tensors.length = (takeOutputs slots ids).2.1.length) :
    restore (takeOutputs slots ids).1 ids tensors =
      restore slots (ids.take tensors.length) tensors := by
  obtain ⟨_, fetched, cleared, _⟩ := takeOutputs_taken slots ids
  rw [restore_take, cleared, ← lengths]
  rw [← lengths] at fetched
  apply restore_congr
  · exact (fetch_length fetched).symm.trans lengths.symm
  · exact length_clear _ _
  · intro place outside
    exact clear_other outside

theorem restore_fetched {slots : List (Option Tensor)} {ids : List TensorId}
    {tensors : List Tensor} (fetched : fetch slots ids = .ok tensors) :
    restore slots ids tensors = slots := by
  induction ids generalizing slots tensors with
  | nil => rfl
  | cons id rest ih =>
      obtain ⟨tensor, others, held, remaining, rfl⟩ := (fetch_cons id rest).1 fetched
      have same : slots.set id (some tensor) = slots := by
        obtain ⟨bound, content⟩ := List.getElem?_eq_some_iff.1 held
        rw [← content]
        exact List.set_getElem_self bound
      rw [restore, same]
      exact ih remaining

theorem restore_taken (slots : List (Option Tensor)) (ids : List TensorId) :
    restore (takeOutputs slots ids).1 ids (takeOutputs slots ids).2.1 = slots := by
  rw [restore_takeOutputs rfl]
  exact restore_fetched (takeOutputs_taken slots ids).2.1

end Session

end TensorRuntime
