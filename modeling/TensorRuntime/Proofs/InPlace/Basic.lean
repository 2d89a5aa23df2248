import TensorRuntime.Proofs.Refusals

/-!
Routines that work on a buffer in place. However one ends, the buffer holds what was written up
to then, so what a routine checks after its first write it can no longer take back.
-/

namespace TensorRuntime

open Attempt

/-- A routine that works on a buffer in place and keeps what it wrote when it fails. -/
abbrev InPlace (α : Type) := ExceptT Fault (StateM Buffer) α

namespace InPlace

section Runs

variable {α β : Type} {first : InPlace α} {next : α → InPlace β} {before after : Buffer}

def runOn (routine : InPlace α) (buffer : Buffer) : Attempt α × Buffer :=
  StateT.run (ExceptT.run routine) buffer

theorem runOn_bind_ok {value : α} (done : first.runOn before = (.ok value, after)) :
    (first >>= next).runOn before = (next value).runOn after := by
  unfold runOn at *
  rw [ExceptT.run_bind, StateT.run_bind, done]
  rfl

theorem runOn_bind_error {fault : Fault} (failed : first.runOn before = (.error fault, after)) :
    (first >>= next).runOn before = (.error fault, after) := by
  unfold runOn at *
  rw [ExceptT.run_bind, StateT.run_bind, failed]
  rfl

theorem runOn_bind_fst {fault : Fault} (failed : (first.runOn before).1 = .error fault) :
    ((first >>= next).runOn before).1 = .error fault := by
  have whole : first.runOn before = (.error fault, (first.runOn before).2) := Prod.ext failed rfl
  exact congrArg Prod.fst (runOn_bind_error whole)

def rewrite (change : Buffer → Attempt Buffer) : InPlace Unit := do
  set (← change (← get))

theorem runOn_rewrite (change : Buffer → Attempt Buffer) (before : Buffer) :
    (rewrite change).runOn before = match change before with
      | .ok after => (.ok (), after)
      | .error fault => (.error fault, before) := by
  have read : (get : InPlace Buffer).runOn before = (.ok before, before) := rfl
  refine (runOn_bind_ok read).trans ?_
  cases changed : change before with
  | ok after => exact runOn_bind_ok rfl
  | error fault => exact runOn_bind_error rfl

end Runs

/-- A routine leaves in the buffer what a computation gives. It may stop on the way where the
computation aborts, but never refuses. -/
structure Fills (routine : InPlace Unit) (before : Buffer) (result : Attempt Buffer) : Prop where
  unrefused : result.Unrefused
  done : ∀ after, result = .ok after → routine.runOn before = (.ok (), after)
  stopped : ∀ fault, result = .error fault → (routine.runOn before).1 = .error fault

section Loops

variable {α : Type} {routine next : InPlace Unit} {before : Buffer} {result : Attempt Buffer}

theorem fills_nothing (before : Buffer) : (pure () : InPlace Unit).Fills before (pure before) where
  unrefused := failsOnly_pure _
  done after done := by cases done; rfl
  stopped fault failed := by cases failed

theorem fills_abort (before : Buffer) :
    (liftM (abort : Attempt Unit) : InPlace Unit).Fills before abort where
  unrefused := unrefused_abort
  done after done := by cases done
  stopped fault failed := by cases failed; rfl

theorem fills_rewrite {change : Buffer → Attempt Buffer}
    (unrefused : (change before).Unrefused) :
    (rewrite change).Fills before (change before) where
  unrefused := unrefused
  done after changed := by rw [runOn_rewrite, changed]
  stopped fault failed := by rw [runOn_rewrite, failed]

theorem Fills.seq (fills : routine.Fills before result) {later : Buffer → Attempt Buffer}
    (fillsNext : ∀ middle, result = .ok middle → next.Fills middle (later middle)) :
    (do routine; next : InPlace Unit).Fills before (result >>= later) where
  unrefused := fills.unrefused.bind fun middle done => (fillsNext middle done).unrefused
  done after finished := by
    obtain ⟨middle, done, rest⟩ := bind_eq_ok.1 finished
    exact (runOn_bind_ok (fills.done middle done)).trans ((fillsNext middle done).done after rest)
  stopped fault failed := by
    cases ended : result with
    | error own =>
        rw [ended] at failed
        cases failed
        exact runOn_bind_fst (fills.stopped _ ended)
    | ok middle =>
        rw [ended] at failed
        exact (congrArg Prod.fst (runOn_bind_ok (fills.done middle ended))).trans
          ((fillsNext middle ended).stopped fault failed)

theorem fills_check {α : Type} {first : Attempt α} {further : α → InPlace Unit}
    {rest : α → Attempt Buffer} (unrefused : first.Unrefused)
    (fills : ∀ value, first = .ok value → (further value).Fills before (rest value)) :
    (liftM first >>= further : InPlace Unit).Fills before (first >>= rest) := by
  cases ended : first with
  | ok value => exact fills value ended
  | error fault =>
      refine ⟨failsOnly_error.2 (unrefused fault ended), fun after done => (by cases done),
        fun own failed => ?_⟩
      cases failed
      have stops : ((liftM (.error fault : Attempt α) : InPlace α).runOn before).1 =
          .error fault := rfl
      exact runOn_bind_fst stops

theorem fills_forM {items : List α} {change : Buffer → α → Attempt Buffer}
    (unrefused : ∀ item ∈ items, ∀ buffer, (change buffer item).Unrefused) :
    (items.forM fun item => rewrite (change · item)).Fills before
      (items.foldlM change before) := by
  induction items generalizing before with
  | nil => exact fills_nothing before
  | cons item rest ih =>
      rw [List.foldlM_cons]
      exact (fills_rewrite (unrefused item (by simp) before)).seq fun middle _ =>
        ih fun later member => unrefused later (by simp [member])

end Loops

/-- A routine does in place what a computation gives as a new tensor. Where the computation
refuses, the routine refuses with nothing written. -/
structure Performs (routine : InPlace Unit) (output : Tensor) (result : Attempt Tensor) :
    Prop where
  done : ∀ written, result = .ok written →
    routine.runOn output.buffer = (.ok (), written.buffer) ∧
      written = { output with buffer := written.buffer }
  refused : ∀ error, result = .error (.refused error) →
    routine.runOn output.buffer = (.error (.refused error), output.buffer)
  aborted : result = .error .aborted → (routine.runOn output.buffer).1 = .error .aborted

section Checks

variable {α : Type} {output : Tensor} {routine : InPlace Unit} {result : Attempt Tensor}

theorem performs_check {first : Attempt α} {next : α → InPlace Unit} {rest : α → Attempt Tensor}
    (performs : ∀ value, first = .ok value → (next value).Performs output (rest value)) :
    (liftM first >>= next : InPlace Unit).Performs output (first >>= rest) := by
  cases ended : first with
  | error fault =>
      have stays : (liftM (.error fault : Attempt α) >>= next : InPlace Unit).runOn output.buffer =
          (.error fault, output.buffer) := runOn_bind_error rfl
      refine ⟨fun written done => (by cases done), fun error refused => ?_, fun aborted => ?_⟩
      · cases refused
        exact stays
      · cases aborted
        exact congrArg Prod.fst stays
  | ok value => exact performs value ended

theorem performs_checked {first : Except Error α} {next : α → InPlace Unit}
    {rest : α → Attempt Tensor}
    (performs : ∀ value, first = .ok value → (next value).Performs output (rest value)) :
    (liftM first >>= next : InPlace Unit).Performs output (liftM first >>= rest) :=
  performs_check fun value done => performs value (lift_eq_ok.1 done)

theorem performs_error (fault : Fault) :
    (liftM (.error fault : Attempt Unit) : InPlace Unit).Performs output (.error fault) where
  done written done := by cases done
  refused error refused := by cases refused; rfl
  aborted aborted := by cases aborted; rfl

theorem performs_guard {condition : Prop} [Decidable condition] {error : Error}
    {next : PUnit → InPlace Unit} {taken : PUnit → Attempt Tensor}
    (performs : ¬ condition → routine.Performs output result) :
    (if condition then liftM (refuse error : Attempt PUnit) >>= next else routine).Performs output
      (if condition then refuse error >>= taken else result) := by
  by_cases holds : condition
  · rw [if_pos holds, if_pos holds]
    exact performs_check fun value impossible => by cases impossible
  · rw [if_neg holds, if_neg holds]
    exact performs holds

theorem Fills.performs {filled : Attempt Buffer} (fills : routine.Fills output.buffer filled)
    (stored : result = (fun buffer => { output with buffer }) <$> filled) :
    routine.Performs output result := by
  subst stored
  cases ended : filled with
  | ok buffer =>
      refine ⟨fun written done => ?_, fun error refused => (by cases refused),
        fun aborted => (by cases aborted)⟩
      cases done
      exact ⟨fills.done buffer ended, rfl⟩
  | error fault =>
      obtain rfl := fills.unrefused fault ended
      refine ⟨fun written done => (by cases done), fun error refused => (by cases refused),
        fun _ => fills.stopped _ ended⟩

theorem Performs.outcome (performs : routine.Performs output result) :
    (routine.runOn output.buffer).1 = (fun _ => ()) <$> result := by
  cases ended : result with
  | ok written => rw [(performs.done written ended).1]; rfl
  | error fault =>
      cases fault with
      | refused error => rw [performs.refused error ended]; rfl
      | aborted => exact performs.aborted ended

theorem Performs.runOn_eq {routine' : InPlace Unit} (performs : routine.Performs output result)
    (performs' : routine'.Performs output result) (safe : result.Safe) :
    routine.runOn output.buffer = routine'.runOn output.buffer := by
  cases ended : result with
  | ok written => rw [(performs.done written ended).1, (performs'.done written ended).1]
  | error fault =>
      cases fault with
      | refused error => rw [performs.refused error ended, performs'.refused error ended]
      | aborted => exact absurd ended safe

end Checks

end InPlace

end TensorRuntime
