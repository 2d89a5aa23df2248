import TensorRuntime.Proofs.InPlace.Catalogue
import TensorRuntime.Proofs.Operator.Holding

/-!
Executing in place. A native run works on the buffer of the output. On the fallback path a kernel
works on a buffer of its own, and its results are stored in the output in the end.
-/

namespace TensorRuntime

open Attempt

namespace InPlace

def apart (routine : InPlace Unit) (buffer : Buffer) : Attempt Buffer :=
  match routine.runOn buffer with
  | (.ok (), after) => .ok after
  | (.error fault, _) => .error fault

def shadowValues [Host] (shadow : Tensor) : Attempt (Array Single) :=
  match shadow.buffer with
  | .f32 values => pure values
  | _ => shadow.toSingles

def onPath [Host] (path : DispatchPath) (routine : Call → InPlace Unit) (params : Params)
    (inputs : List Tensor) (output : Tensor) (derived : Option Derived) : InPlace Unit :=
  match path with
  | .native => routine ⟨params, inputs, [output], derived⟩
  | .quantFallback => do
      let views ← (floatViews inputs).2
      let shadow ← output.zeroShadow
      let written ← (routine ⟨params, views, [shadow], derived⟩).apart shadow.buffer
      output.store (← shadowValues { shadow with buffer := written })

def reporting (report : Fault → Fault) (routine : InPlace Unit) : InPlace Unit :=
  tryCatch routine fun fault => throw (report fault)

variable {routine : InPlace Unit} {output : Tensor} {result : Attempt Tensor}

theorem Performs.apart (performs : routine.Performs output result) :
    routine.apart output.buffer = Tensor.buffer <$> result := by
  have outcome := performs.outcome
  unfold InPlace.apart
  cases ended : result with
  | ok written => rw [(performs.done written ended).1]; rfl
  | error fault =>
      rw [ended] at outcome
      generalize routine.runOn output.buffer = ran at outcome
      obtain ⟨own, after⟩ := ran
      cases outcome
      rfl

theorem runOn_reporting (report : Fault → Fault) (routine : InPlace Unit) (before : Buffer) :
    (reporting report routine).runOn before =
      ((routine.runOn before).1.mapError report, (routine.runOn before).2) := by
  unfold reporting runOn
  rw [ExceptT.run_tryCatch, StateT.run_bind]
  generalize StateT.run routine.run before = ran
  obtain ⟨outcome, after⟩ := ran
  cases outcome <;> rfl

theorem Performs.reporting (performs : routine.Performs output result) {report : Fault → Fault}
    (refuses : ∀ error, ∃ error', report (.refused error) = .refused error')
    (aborts : report .aborted = .aborted) :
    (InPlace.reporting report routine).Performs output (result.mapError report) where
  done written done := by
    cases ended : result with
    | ok own =>
        rw [ended] at done
        cases done
        rw [runOn_reporting, (performs.done _ ended).1]
        exact ⟨rfl, (performs.done _ ended).2⟩
    | error fault =>
        rw [ended] at done
        cases done
  refused error refused := by
    cases ended : result with
    | ok own =>
        rw [ended] at refused
        cases refused
    | error fault =>
        rw [ended] at refused
        cases fault with
        | aborted => cases aborts.symm.trans (Except.error.inj refused)
        | refused own =>
            rw [runOn_reporting, performs.refused own ended]
            exact Prod.ext (congrArg Except.error (Except.error.inj refused)) rfl
  aborted aborted := by
    cases ended : result with
    | ok own =>
        rw [ended] at aborted
        cases aborted
    | error fault =>
        rw [ended] at aborted
        cases fault with
        | refused own =>
            obtain ⟨error, reported⟩ := refuses own
            cases reported.symm.trans (Except.error.inj aborted)
        | aborted =>
            rw [runOn_reporting]
            dsimp only
            rw [performs.aborted ended]
            exact congrArg Except.error (Except.error.inj aborted)

theorem storeShadows_single [Host] (output shadow : Tensor) :
    (⟨(storeShadows [output] [shadow]).1, (storeShadows [output] [shadow]).2⟩ : RunResult) =
      .ofAttempt output (do output.writeSingles (← shadowValues shadow)) := by
  unfold storeShadows shadowValues
  cases shadow.buffer with
  | f32 values =>
      dsimp only [bind, Except.bind, pure, Except.pure]
      cases output.writeSingles values <;> rfl
  | f16 | i8 | u8 | i16 | i32 | bool =>
      dsimp only [bind, Except.bind]
      cases shadow.toSingles with
      | error fault => rfl
      | ok values =>
          dsimp only
          cases output.writeSingles values <;> rfl

end InPlace

namespace Operator

open InPlace

variable {operator : Operator} {kernel : Kernel} {routine : Call → InPlace Unit}

theorem performs_onPath [Host] (operator : Operator) (runs : kernel.RunsAs routine)
    (path : DispatchPath)
    (inputs : List Tensor) (output : Tensor) (derived : Option Derived) (ledger : ShadowLedger) :
    ∃ result, (onPath path routine operator.params inputs output derived).Performs output result ∧
      (operator.runKernel kernel path derived inputs [output] ledger).2 =
        .ofAttempt output result := by
  cases path with
  | native => exact runs operator.params inputs output derived
  | quantFallback =>
      refine ⟨do
        let views ← (floatViews inputs).2
        let shadow ← output.zeroShadow
        let written ← (routine ⟨operator.params, views, [shadow], derived⟩).apart shadow.buffer
        output.writeSingles (← shadowValues { shadow with buffer := written }), ?_, ?_⟩
      · exact performs_check fun _ _ => performs_check fun _ _ => performs_check fun _ _ =>
          performs_check fun values _ => output.performs_store values
      · unfold runKernel Kernel.runOnShadows
        dsimp only
        cases (floatViews inputs).2 with
        | error fault => rfl
        | ok views =>
            dsimp only [outputShadows]
            cases output.zeroShadow with
            | error fault => rfl
            | ok shadow =>
                obtain ⟨result, performs, ran⟩ := runs operator.params views shadow derived
                dsimp only [Functor.map, Except.map, bind, Except.bind]
                rw [ran, performs.apart]
                cases ended : result with
                | error fault => rfl
                | ok written =>
                    dsimp only [Functor.map, Except.map]
                    rw [← (performs.done written ended).2]
                    exact storeShadows_single output written

theorem reported_refused (kernel : Kernel) (error : Error) :
    ∃ error', reported kernel (.refused error) = .refused error' := by
  unfold reported
  split
  · exact ⟨_, rfl⟩
  · exact ⟨_, rfl⟩
  · exact ⟨_, rfl⟩
  · rename_i aborted
    cases aborted

/-- An execute of an executable operator, written as it goes through the buffer of the output. -/
def executeInPlace [Host] (operator : Operator) (kernel : Kernel) (path : DispatchPath)
    (routine : Call → InPlace Unit) (inputs : List Tensor) (output : Tensor) : InPlace Unit := do
  operator.checkBound inputs [output]
  reporting (reported kernel)
    (onPath path routine operator.params inputs output operator.binding.derived?)

/-- A routine on the buffer of the output that ends as an execute does. A refusal finds the buffer
as it was, and after a success the buffer holds what the output does. -/
structure ExecutesBy [Host] (operator : Operator) (registry : Registry) (inputs : List Tensor)
    (output : Tensor) (ledger : ShadowLedger) (routine : InPlace Unit) : Prop where
  outcome : (routine.runOn output.buffer).1 =
    (operator.execute registry inputs [output] ledger).outcome
  unwritten : ∀ error,
    (operator.execute registry inputs [output] ledger).outcome = .error (.refused error) →
      (routine.runOn output.buffer).2 = output.buffer
  written : (operator.execute registry inputs [output] ledger).outcome = .ok () →
    (operator.execute registry inputs [output] ledger).outputs =
      [{ output with buffer := (routine.runOn output.buffer).2 }]

section Execute

variable {registry : Registry} {resolution : Resolution} {inputs : List Tensor} {output : Tensor}
  {ledger : ShadowLedger}

theorem execute_ofAttempt [Host] {result : Attempt Tensor}
    (executable : operator.binding.phase = .executable)
    (present : operator.binding.resolution? = some resolution)
    (found : registry.kernel? resolution.kernel = some kernel)
    (ran : (operator.runKernel kernel resolution.path operator.binding.derived? inputs [output]
      ledger).2 = .ofAttempt output result) :
    (⟨(operator.execute registry inputs [output] ledger).outputs,
        (operator.execute registry inputs [output] ledger).outcome⟩ : RunResult) =
      .ofAttempt output (do
        operator.checkBound inputs [output]
        result.mapError (reported kernel)) := by
  cases checked : operator.checkBound inputs [output] with
  | error error =>
      rw [execute_mismatched executable present checked]
      rfl
  | ok _ =>
      obtain ⟨outcome, outputs⟩ :=
        @execute_bound _ _ _ _ _ ledger _ _ executable present checked found
      rw [outcome, outputs, ran]
      cases result <;> rfl

theorem execute_performs [Host] (executable : operator.binding.phase = .executable)
    (present : operator.binding.resolution? = some resolution)
    (found : registry.kernel? resolution.kernel = some kernel) (runs : kernel.RunsAs routine)
    (inputs : List Tensor) (output : Tensor) (ledger : ShadowLedger) :
    ∃ result,
      (operator.executeInPlace kernel resolution.path routine inputs output).Performs output
          result ∧
        (⟨(operator.execute registry inputs [output] ledger).outputs,
            (operator.execute registry inputs [output] ledger).outcome⟩ : RunResult) =
          .ofAttempt output result := by
  obtain ⟨given, performs, ran⟩ := operator.performs_onPath runs resolution.path inputs output
    operator.binding.derived? ledger
  exact ⟨_, performs_checked fun _ _ => performs.reporting (reported_refused kernel) rfl,
    execute_ofAttempt executable present found ran⟩

theorem execute_in_place [Host] (executable : operator.binding.phase = .executable)
    (present : operator.binding.resolution? = some resolution)
    (found : registry.kernel? resolution.kernel = some kernel) (runs : kernel.RunsAs routine)
    (inputs : List Tensor) (output : Tensor) (ledger : ShadowLedger) :
    operator.ExecutesBy registry inputs output ledger
      (operator.executeInPlace kernel resolution.path routine inputs output) := by
  obtain ⟨result, performs, executed⟩ :=
    execute_performs executable present found runs inputs output ledger
  obtain ⟨outputs, outcome⟩ := RunResult.mk.inj executed
  refine ⟨?_, fun error refused => ?_, fun done => ?_⟩
  · rw [performs.outcome, outcome]
    cases result <;> rfl
  · rw [outcome] at refused
    cases ended : result with
    | ok written =>
        rw [ended] at refused
        cases refused
    | error fault =>
        rw [ended] at refused
        cases refused
        rw [performs.refused error ended]
  · rw [outcome] at done
    rw [outputs]
    cases ended : result with
    | ok written =>
        obtain ⟨left, own⟩ := performs.done written ended
        rw [left, ← own]
    | error fault =>
        rw [ended] at done
        cases done

theorem execute_failed_output [Host] (executable : operator.binding.phase = .executable)
    (present : operator.binding.resolution? = some resolution)
    (found : registry.kernel? resolution.kernel = some kernel) (runs : kernel.RunsAs routine)
    {fault : Fault}
    (failed : (operator.execute registry inputs [output] ledger).outcome = .error fault) :
    (operator.execute registry inputs [output] ledger).outputs = [output] := by
  obtain ⟨result, _, executed⟩ :=
    execute_performs executable present found runs inputs output ledger
  obtain ⟨outputs, outcome⟩ := RunResult.mk.inj executed
  rw [outcome] at failed
  rw [outputs]
  cases result with
  | ok written => cases failed
  | error own => rfl

end Execute

end Operator

end TensorRuntime
