import TensorRuntime.Proofs.Attempt

/-!
The ways in which a computation can fail. A sequence of steps fails in no way that its steps
do not, and a loop in no way that its steps do not where an invariant holds that they keep.
-/

namespace TensorRuntime

namespace Attempt

/-- A computation that fails in no way but those that are allowed. -/
def FailsOnly {ε α : Type} (allowed : ε → Prop) (attempt : Except ε α) : Prop :=
  ∀ fault, attempt = .error fault → allowed fault

section Steps

variable {ε α β : Type} {allowed : ε → Prop}

theorem failsOnly_ok (value : α) : FailsOnly allowed (.ok value) := by
  intro _ impossible
  cases impossible

theorem failsOnly_pure (value : α) : FailsOnly allowed (pure value : Except ε α) :=
  failsOnly_ok value

theorem failsOnly_error {fault : ε} :
    FailsOnly allowed (.error fault : Except ε α) ↔ allowed fault := by
  constructor
  · intro only
    exact only fault rfl
  · intro may other same
    cases same
    exact may

theorem failsOnly_refuse {allowed : Fault → Prop} {error : Error} :
    FailsOnly allowed (refuse error : Attempt α) ↔ allowed (.refused error) := failsOnly_error

theorem FailsOnly.mono {wider : ε → Prop} {attempt : Except ε α} (only : FailsOnly allowed attempt)
    (wide : ∀ fault, allowed fault → wider fault) : FailsOnly wider attempt :=
  fun fault failed => wide fault (only fault failed)

theorem FailsOnly.of_ok {attempt : Except ε α} {value : α} (done : attempt = .ok value) :
    FailsOnly allowed attempt := done ▸ failsOnly_ok value

theorem FailsOnly.bind {first : Except ε α} {next : α → Except ε β}
    (only : FailsOnly allowed first)
    (rest : ∀ value, first = .ok value → FailsOnly allowed (next value)) :
    FailsOnly allowed (first >>= next) := by
  cases first with
  | error fault => exact failsOnly_error.2 (failsOnly_error.1 only)
  | ok value => exact rest value rfl

theorem FailsOnly.bind_ok {first : Except ε α} {next : α → Except ε β} {value : α}
    (done : first = .ok value) (rest : FailsOnly allowed (next value)) :
    FailsOnly allowed (first >>= next) := by
  rw [done]
  exact rest

theorem FailsOnly.map {first : Except ε α} (function : α → β) (only : FailsOnly allowed first) :
    FailsOnly allowed (function <$> first) := by
  cases first with
  | error fault => exact failsOnly_error.2 (failsOnly_error.1 only)
  | ok value => exact failsOnly_ok _

theorem FailsOnly.lift {allowed : Fault → Prop} {first : Except Error α}
    (only : FailsOnly (fun error => allowed (.refused error)) first) :
    FailsOnly allowed (liftM first : Attempt α) := by
  cases first with
  | error error =>
      intro fault same
      cases same
      exact only error rfl
  | ok value => exact failsOnly_ok _

theorem failsOnly_check {error : ε} {condition : Prop} [Decidable condition]
    {next : PUnit → Except ε α} {rest : Except ε α} (may : condition → allowed error)
    (only : ¬ condition → FailsOnly allowed rest) :
    FailsOnly allowed (if condition then (.error error : Except ε PUnit) >>= next else rest) := by
  by_cases holds : condition
  · rw [if_pos holds]
    exact failsOnly_error.2 (may holds)
  · rw [if_neg holds]
    exact only holds

end Steps

section Loops

variable {ε α β : Type} {allowed : ε → Prop}

theorem failsOnly_mapM {items : List α} {step : α → Except ε β}
    (each : ∀ item ∈ items, FailsOnly allowed (step item)) :
    FailsOnly allowed (items.mapM step) := by
  induction items with
  | nil => exact failsOnly_pure []
  | cons item rest ih =>
      rw [List.mapM_cons]
      exact (each item (by simp)).bind fun value _ =>
        (ih fun later member => each later (by simp [member])).bind fun values _ =>
          failsOnly_pure _

theorem failsOnly_foldlM_keeping (invariant : β → Prop) {items : List α} {step : β → α → Except ε β}
    {start : β} (first : invariant start)
    (each : ∀ item ∈ items, ∀ before, invariant before → FailsOnly allowed (step before item))
    (keeps : ∀ item ∈ items, ∀ before after, invariant before → step before item = .ok after →
      invariant after) : FailsOnly allowed (items.foldlM step start) := by
  induction items generalizing start with
  | nil => exact failsOnly_pure start
  | cons item rest ih =>
      rw [List.foldlM_cons]
      refine (each item (by simp) start first).bind fun after stepped => ?_
      exact ih (keeps item (by simp) start after first stepped)
        (fun later member => each later (by simp [member]))
        fun later member => keeps later (by simp [member])

theorem failsOnly_foldlM {items : List α} {step : β → α → Except ε β} {start : β}
    (each : ∀ item ∈ items, ∀ before, FailsOnly allowed (step before item)) :
    FailsOnly allowed (items.foldlM step start) :=
  failsOnly_foldlM_keeping (fun _ => True) trivial
    (fun item member before _ => each item member before) fun _ _ _ _ _ _ => trivial

theorem failsOnly_forM {items : List α} {step : α → Except ε Unit}
    (each : ∀ item ∈ items, FailsOnly allowed (step item)) :
    FailsOnly allowed (items.forM step) := by
  induction items with
  | nil => exact failsOnly_pure ()
  | cons item rest ih =>
      exact (each item (by simp)).bind fun _ _ =>
        ih fun later member => each later (by simp [member])

theorem failsOnly_mapIdxM {values : Array α} {step : Nat → α → Except ε β}
    (each : ∀ index < values.size, ∀ value, FailsOnly allowed (step index value)) :
    FailsOnly allowed (values.mapIdxM step) := by
  have listed : Array.toList <$> values.mapIdxM step = values.toList.mapIdxM step :=
    Array.toList_mapIdxM
  have built : ∀ (items : List α) (built : Array β), items.length + built.size ≤ values.size →
      FailsOnly allowed (List.mapIdxM.go step items built) := by
    intro items
    induction items with
    | nil =>
        intro built _
        exact failsOnly_pure _
    | cons item rest ih =>
        intro built room
        rw [List.length_cons] at room
        rw [List.mapIdxM.go]
        refine (each built.size (by omega) item).bind fun value _ => ?_
        exact ih _ (by rw [Array.size_push]; omega)
  intro fault failed
  rw [failed] at listed
  exact built values.toList #[] (by simp) fault listed.symm

end Loops

end Attempt

end TensorRuntime
