import TensorRuntime.Proofs.Failures

/-!
Computations that never abort, as one of the ways in which a computation can fail. A sequence
of steps is safe when each step is safe on what the steps before it gave, a loop when its steps
keep what makes them safe.
-/

namespace TensorRuntime

namespace Attempt

/-- A computation that ends in a value or in a refusal. -/
def Safe {α : Type} (attempt : Attempt α) : Prop := attempt ≠ .error .aborted

section Steps

variable {α β : Type}

theorem safe_ok (value : α) : Safe (.ok value) := by
  intro impossible
  cases impossible

theorem safe_pure (value : α) : Safe (pure value) := safe_ok value

theorem safe_refuse (error : Error) : Safe (refuse error : Attempt α) := by
  intro impossible
  cases impossible

theorem safe_lift (first : Except Error α) : Safe (liftM first : Attempt α) := by
  cases first <;> intro impossible <;> cases impossible

theorem safe_error {fault : Fault} : Safe (.error fault : Attempt α) ↔ fault ≠ .aborted := by
  simp [Safe]

theorem safe_iff {attempt : Attempt α} : attempt.Safe ↔ FailsOnly (· ≠ .aborted) attempt := by
  cases attempt with
  | error fault => rw [safe_error, failsOnly_error]
  | ok value => exact iff_of_true (safe_ok value) (failsOnly_ok value)

theorem Safe.of_ok {attempt : Attempt α} {value : α} (done : attempt = .ok value) :
    attempt.Safe := done ▸ safe_ok value

theorem Safe.bind {first : Attempt α} {next : α → Attempt β} (safe : first.Safe)
    (rest : ∀ value, first = .ok value → (next value).Safe) : (first >>= next).Safe :=
  safe_iff.2 ((safe_iff.1 safe).bind fun value done => safe_iff.1 (rest value done))

theorem Safe.bind_lift {first : Except Error α} {next : α → Attempt β}
    (rest : ∀ value, first = .ok value → (next value).Safe) :
    (liftM first >>= next : Attempt β).Safe :=
  (safe_lift first).bind fun value found => rest value (lift_eq_ok.1 found)

theorem Safe.bind_ok {first : Attempt α} {next : α → Attempt β} {value : α}
    (done : first = .ok value) (rest : (next value).Safe) : (first >>= next).Safe := by
  rw [done]
  exact rest

theorem Safe.map {first : Attempt α} (function : α → β) (safe : first.Safe) :
    (function <$> first).Safe :=
  safe_iff.2 ((safe_iff.1 safe).map function)

theorem safe_guard {condition : Prop} [Decidable condition] {error : Error}
    {next : PUnit → Attempt α} {rest : Attempt α} (safe : ¬ condition → rest.Safe) :
    Safe (if condition then (refuse error : Attempt PUnit) >>= next else rest) := by
  by_cases holds : condition
  · rw [if_pos holds]
    exact safe_refuse error
  · rw [if_neg holds]
    exact safe holds

theorem safe_assert {condition : Prop} [Decidable condition] {next : PUnit → Attempt α}
    {rest : Attempt α} (passes : ¬ condition) (safe : rest.Safe) :
    Safe (if condition then (abort : Attempt PUnit) >>= next else rest) := by
  rw [if_neg passes]
  exact safe

end Steps

section Loops

variable {α β : Type}

theorem safe_mapM {items : List α} {step : α → Attempt β}
    (each : ∀ item ∈ items, (step item).Safe) : (items.mapM step).Safe :=
  safe_iff.2 (failsOnly_mapM fun item member => safe_iff.1 (each item member))

theorem safe_foldlM (invariant : β → Prop) {items : List α} {step : β → α → Attempt β}
    {start : β} (first : invariant start)
    (safe : ∀ item ∈ items, ∀ before, invariant before → (step before item).Safe)
    (keeps : ∀ item ∈ items, ∀ before after, invariant before → step before item = .ok after →
      invariant after) : (items.foldlM step start).Safe :=
  safe_iff.2 (failsOnly_foldlM_keeping invariant first
    (fun item member before holds => safe_iff.1 (safe item member before holds)) keeps)

theorem safe_foldlM_of_steps {items : List α} {step : β → α → Attempt β} {start : β}
    (safe : ∀ item ∈ items, ∀ before, (step before item).Safe) :
    (items.foldlM step start).Safe :=
  safe_iff.2 (failsOnly_foldlM fun item member before => safe_iff.1 (safe item member before))

theorem safe_mapIdxM {values : Array α} {step : Nat → α → Attempt β}
    (each : ∀ index < values.size, ∀ value, (step index value).Safe) :
    (values.mapIdxM step).Safe :=
  safe_iff.2 (failsOnly_mapIdxM fun index bound value => safe_iff.1 (each index bound value))

end Loops

end Attempt

open Attempt

section Arrays

variable {α : Type} {values : Array α}

theorem safe_tabulate {count : Nat} {element : Nat → Attempt α}
    (each : ∀ index < count, (element index).Safe) : (tabulate count element).Safe :=
  (safe_mapM fun index member => each index (List.mem_range.1 member)).map _

theorem safe_readAt {index : Nat} (inside : index < values.size) : (readAt values index).Safe :=
  .of_ok (readAt_of_lt inside)

theorem safe_readRun {start count : Nat} (inside : start + count ≤ values.size) :
    (readRun values start count).Safe := by
  unfold readRun
  rw [if_pos inside]
  exact safe_pure _

theorem length_of_readRun {start count : Nat} {run : List α}
    (read : readRun values start count = .ok run) : run.length = count := by
  unfold readRun at read
  split at read
  · rename_i inside
    rw [pure_eq_ok] at read
    rw [← read]
    simp
    omega
  · cases read

theorem safe_writeAt {index : Nat} {value : α} (inside : index < values.size) :
    (writeAt values index value).Safe := by
  unfold writeAt
  rw [if_pos inside]
  exact safe_pure _

theorem safe_nonzero {divisor : Nat} (positive : 0 < divisor) : (nonzero divisor).Safe := by
  unfold nonzero
  rw [if_neg (by omega)]
  exact safe_pure _

theorem pos_of_nonzero {divisor : Nat} (done : nonzero divisor = .ok ()) : 0 < divisor := by
  unfold nonzero at done
  split at done
  · cases done
  · omega

theorem safe_derivedOr {derived : Option α} {derive : Attempt α}
    (safe : derived = none → derive.Safe) : (derivedOr derived derive).Safe := by
  cases derived with
  | none => exact safe rfl
  | some state => exact safe_pure state

end Arrays

end TensorRuntime
