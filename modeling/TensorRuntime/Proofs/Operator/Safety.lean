import TensorRuntime.Proofs.Kernel.Safety.Catalogue
import TensorRuntime.Proofs.Operator.Fallback

/-!
No run of a prepared operator aborts, natively or through shadows, except where a kernel
has to cut an output into rows that hold nothing. Such a run never succeeds either.
-/

namespace TensorRuntime

open Attempt

section

variable [Host]

section Shadows

variable {kernel : Kernel} {params : Params} {inputs : List Tensor} {output : Tensor}
  {derived : Option Derived}

theorem Tensor.safe_floatView {tensor : Tensor} (sized : tensor.Sized) :
    tensor.floatView.Safe := by
  unfold floatView
  split
  · exact (safe_toSingles sized).bind fun _ _ => safe_lift _
  · exact safe_pure tensor

theorem Kernel.safe_onShadows (keeps : kernel.KeepsFrames)
    (sized : ∀ tensor ∈ output :: inputs, tensor.Sized)
    (safe : ∀ views shadow, inputs.mapM Tensor.floatView = .ok views →
      output.zeroShadow = .ok shadow →
      (kernel.run ⟨params, views, [shadow], derived⟩).outcome.Safe) :
    (kernel.onShadows params inputs output derived).Safe := by
  have inputsSized : ∀ tensor ∈ inputs, tensor.Sized :=
    fun tensor member => sized tensor (List.mem_cons_of_mem _ member)
  unfold onShadows
  refine (safe_mapM fun tensor member =>
    Tensor.safe_floatView (inputsSized tensor member)).bind fun views viewed => ?_
  refine (Tensor.safe_zeroShadow output).bind fun shadow shadowed => ?_
  refine (safe views shadow viewed shadowed).bind fun _ _ => ?_
  obtain ⟨_, _, shadowValid⟩ := Tensor.zeroShadow_eq_ok.1 shadowed
  obtain ⟨written, left, frame⟩ := @KeepsFrames.single kernel params views shadow derived keeps
    (floatViews_sized inputsSized viewed) shadowValid.sized
  rw [left]
  exact (Tensor.safe_toSingles (shadowValid.sized.of_frame frame)).bind fun values _ =>
    Tensor.safe_writeSingles (sized output (by simp)) values

omit [Host] in
theorem RunResult.safe_ofAttempt {stores : Attempt Tensor} (safe : stores.Safe) :
    (RunResult.ofAttempt output stores).outcome.Safe := by
  cases stores with
  | ok stored => exact safe_ok ()
  | error fault => exact safe_error.2 (safe_error.1 safe)

omit [Host] in
theorem RunResult.ok_of_ofAttempt {stores : Attempt Tensor}
    (done : (RunResult.ofAttempt output stores).outcome = .ok ()) :
    ∃ stored, stores = .ok stored := by
  cases stores with
  | ok stored => exact ⟨stored, rfl⟩
  | error fault => cases done

end Shadows

namespace Operator

/-- The run has to cut its output into rows that hold nothing. -/
def CutsEmptyRows (params : Params) (backend : Backend) (inputs outputs : List Tensor) : Prop :=
  ∃ op output, params.classify inputs = .ok op ∧ backend.cutsRows op = true ∧
    outputs = [output] ∧ output.dims.getLast? = some 0

omit [Host] in
theorem CutsEmptyRows.padsFit {params : Params} {backend : Backend} {inputs outputs : List Tensor}
    (cuts : CutsEmptyRows params backend inputs outputs) : params.PadsFit inputs := by
  obtain ⟨_, _, classified, cut, _⟩ := cuts
  cases params with
  | pad =>
      cases classified
      cases cut
  | _ => trivial

theorem cutsEmptyRows_views {params : Params} {backend : Backend} {inputs views : List Tensor}
    {output shadow : Tensor} (viewed : inputs.mapM Tensor.floatView = .ok views)
    (shadowed : output.zeroShadow = .ok shadow) :
    CutsEmptyRows params backend views [shadow] ↔ CutsEmptyRows params backend inputs [output] := by
  have outlines := floatViews_outlines viewed
  obtain ⟨_, rfl, _⟩ := Tensor.zeroShadow_eq_ok.1 shadowed
  constructor
  · rintro ⟨op, _, classified, cut, same, empty⟩
    cases same
    exact ⟨op, output, Params.classify_of_outlines outlines.symm classified, cut, rfl, empty⟩
  · rintro ⟨op, _, classified, cut, same, empty⟩
    cases same
    exact ⟨op, _, Params.classify_of_outlines outlines classified, cut, rfl, empty⟩

section Plans

variable {operator : Operator} {backend : Backend} {inputs : List Tensor} {output : Tensor}
  {requested : Resolution} {kernel : Kernel} {bound : BoundTensors} {derived : Option Derived}

theorem admitted_of_plan
    (planned : operator.plan Registry.default backend inputs [output] =
      .ok (requested, kernel, bound))
    (call : PreparedCall kernel.precompute operator.params inputs output derived)
    (valid : ∀ tensor ∈ output :: inputs, tensor.Valid)
    (fits : operator.params.PadsFit inputs) :
    ∃ op elementType, (op, elementType, kernel) ∈ Catalogue.kernelsOf backend ∧
      AdmittedCall kernel.precompute op operator.params inputs output derived := by
  obtain ⟨_, resolved, found, _⟩ := plan_eq_ok planned
  obtain ⟨op, _, _, _, _, elementType, _, classified, rfl, chosen, _, _, rfl⟩ :=
    Registry.resolve_eq_ok.1 resolved
  exact ⟨op, elementType, Registry.listed_of_lookup (Registry.choose_cases chosen).1 found,
    call, classified, fits, valid⟩

theorem output_isInteger
    (planned : operator.plan Registry.default backend inputs [output] =
      .ok (requested, kernel, bound))
    (path : requested.path = .quantFallback) : output.elementType.isInteger = true := by
  obtain ⟨checked, resolved, _⟩ := plan_eq_ok planned
  obtain ⟨_, input, others, _, _, _, _, _, rfl, chosen, _, _, rfl⟩ :=
    Registry.resolve_eq_ok.1 resolved
  rw [(accepted_of_checkOutputs checked).2]
  rcases (Registry.choose_cases chosen).2 with ⟨native, _⟩ | ⟨_, _, low⟩
  · cases path.symm.trans native
  · exact ElementType.isInteger_of_isLowPrecision low

variable (planned : operator.plan Registry.default backend inputs [output] =
    .ok (requested, kernel, bound))
  (call : PreparedCall kernel.precompute operator.params inputs output derived)
  (valid : ∀ tensor ∈ output :: inputs, tensor.Valid)

include planned call valid

theorem safe_of_plan (fits : operator.params.PadsFit inputs)
    (rows : ¬ CutsEmptyRows operator.params backend inputs [output]) :
    (kernel.run ⟨operator.params, inputs, [output], derived⟩).outcome.Safe := by
  obtain ⟨op, elementType, listed, admitted⟩ := admitted_of_plan planned call valid fits
  exact Catalogue.kernelsOf_safe backend _ listed _ _ _ _ admitted
    fun cuts empty => rows ⟨op, output, admitted.classified, cuts, rfl, empty⟩

theorem rows_of_plan
    (done : (kernel.run ⟨operator.params, inputs, [output], derived⟩).outcome = .ok ()) :
    ¬ CutsEmptyRows operator.params backend inputs [output] := by
  intro cutsEmpty
  obtain ⟨op, elementType, listed, admitted⟩ :=
    admitted_of_plan planned call valid cutsEmpty.padsFit
  obtain ⟨op', _, classified, cuts, same, empty⟩ := cutsEmpty
  cases same
  cases admitted.classified.symm.trans classified
  exact Catalogue.kernelsOf_needRows backend _ listed cuts _ _ _ _ admitted done empty

end Plans

omit [Host] in
theorem safe_reported {kernel : Kernel} {outcome : Attempt Unit} (safe : outcome.Safe) :
    Safe (outcome.mapError (reported kernel)) := by
  cases outcome with
  | ok _ => exact safe_ok ()
  | error fault =>
      rw [safe_error] at safe
      refine safe_error.2 ?_
      unfold reported
      split
      · exact fun impossible => by cases impossible
      · exact fun impossible => by cases impossible
      · exact fun impossible => by cases impossible
      · exact fun _ => safe rfl

end Operator

def OperatorCall.isPrepare : OperatorCall → Bool
  | prepare .. => true
  | execute .. | release => false

namespace OperatorRun

variable {run : OperatorRun} {backend : Backend} {inputs₀ outputs₀ inputs outputs : List Tensor}

namespace Runs

variable {output : Tensor} {requested : Resolution} {kernel : Kernel}
  (runs : run.Runs Registry.default backend inputs output requested kernel)
  (valid : ∀ tensor ∈ output :: inputs, tensor.Valid)

include runs valid

theorem onViews (path : requested.path = .quantFallback) {views : List Tensor} {shadow : Tensor}
    (viewed : inputs.mapM Tensor.floatView = .ok views)
    (shadowed : output.zeroShadow = .ok shadow) :
    ∃ native, { run.operator with allowFallback := false }.plan Registry.default backend views
        [shadow] = .ok (native, kernel, .capture kernel views [shadow]) ∧
      PreparedCall kernel.precompute run.operator.params views shadow
        run.operator.binding.derived? ∧
      ∀ tensor ∈ shadow :: views, tensor.Valid := by
  have inputsValid : ∀ tensor ∈ inputs, tensor.Valid :=
    fun tensor member => valid tensor (List.mem_cons_of_mem _ member)
  obtain ⟨native, _, planned⟩ :=
    Operator.plan_on_views runs.planned path inputsValid viewed shadowed
  obtain ⟨_, _, _, same, rfl, inferred, sameType⟩ :=
    Operator.checkOutputs_eq_ok.1 (Operator.plan_eq_ok planned).1
  cases same
  obtain ⟨_, _, shadowValid⟩ := Tensor.zeroShadow_eq_ok.1 shadowed
  have viewsValid := List.forall_mem_cons.2 ⟨shadowValid, floatViews_valid inputsValid viewed⟩
  refine ⟨native, planned, ⟨inferred, fun _ _ same => ?_,
    fun tensor member => (viewsValid tensor member).sized, runs.shadowed path _ viewed⟩, viewsValid⟩
  cases same
  exact sameType

omit valid in
theorem keepsFrames : kernel.KeepsFrames := by
  obtain ⟨entry, member, own⟩ := Registry.mem_of_kernel? (Operator.plan_eq_ok runs.planned).2.2.1
  exact own ▸ Registry.default_keepsFrames entry member

theorem outcome_onShadows (ledger : ShadowLedger) :
    (run.operator.runKernel kernel .quantFallback run.operator.binding.derived? inputs [output]
      ledger).2 = .ofAttempt output (kernel.onShadows run.operator.params inputs output
        run.operator.binding.derived?) :=
  Kernel.runOnShadows_eq runs.keepsFrames
    (fun tensor member => (valid tensor (List.mem_cons_of_mem _ member)).sized) ledger

theorem safe (fits : run.operator.params.PadsFit inputs)
    (rows : ¬ Operator.CutsEmptyRows run.operator.params backend inputs [output])
    (ledger : ShadowLedger) :
    (run.operator.runKernel kernel requested.path run.operator.binding.derived? inputs [output]
      ledger).2.outcome.Safe := by
  cases path : requested.path with
  | native => exact Operator.safe_of_plan runs.planned (runs.native path) valid fits rows
  | quantFallback =>
      rw [runs.outcome_onShadows valid]
      refine RunResult.safe_ofAttempt (Kernel.safe_onShadows runs.keepsFrames
        (fun tensor member => (valid tensor member).sized) fun views shadow viewed shadowed => ?_)
      obtain ⟨native, planned, call, viewsValid⟩ := runs.onViews valid path viewed shadowed
      have onViews := Operator.safe_of_plan planned call viewsValid
        (fits.of_outlines (floatViews_outlines viewed))
        (mt (Operator.cutsEmptyRows_views viewed shadowed).1 rows)
      exact onViews

theorem rows {ledger : ShadowLedger}
    (done : (run.operator.runKernel kernel requested.path run.operator.binding.derived? inputs
      [output] ledger).2.outcome = .ok ()) :
    ¬ Operator.CutsEmptyRows run.operator.params backend inputs [output] := by
  cases path : requested.path with
  | native =>
      rw [path] at done
      exact Operator.rows_of_plan runs.planned (runs.native path) valid done
  | quantFallback =>
      rw [path, runs.outcome_onShadows valid] at done
      obtain ⟨stored, stores⟩ := RunResult.ok_of_ofAttempt done
      obtain ⟨views, shadow, _, _, viewed, shadowed, ran, _⟩ := Kernel.onShadows_eq_ok.1 stores
      obtain ⟨native, planned, call, viewsValid⟩ := runs.onViews valid path viewed shadowed
      have onViews := Operator.rows_of_plan planned call viewsValid ran
      exact mt (Operator.cutsEmptyRows_views viewed shadowed).2 onViews

end Runs

/-- After a prepare no run aborts, whatever tensors it is given, unless its padding is not counted
in words or it has to cut empty rows, and then it does not succeed. -/
theorem Sound.execute_safe (sound : run.Sound Registry.default)
    (last : OperatorEvent.lastPrepared? run.history = some (backend, inputs₀, outputs₀))
    (valid₀ : ∀ tensor ∈ inputs₀, tensor.Valid) (valid : ∀ tensor ∈ inputs ++ outputs, tensor.Valid)
    (ledger : ShadowLedger) :
    let executed := run.operator.execute Registry.default inputs outputs ledger
    (run.operator.params.PadsFit inputs →
        ¬ Operator.CutsEmptyRows run.operator.params backend inputs outputs →
        executed.outcome.Safe) ∧
      (Operator.CutsEmptyRows run.operator.params backend inputs outputs →
        executed.outcome ≠ .ok ()) := by
  intro executed
  obtain ⟨error, refused⟩ | ⟨_, _, executable, _, checked, _⟩ :=
    run.operator.execute_cases Registry.default inputs outputs ledger
  · have outcome : executed.outcome = refuse error := congrArg ExecuteResult.outcome refused
    rw [outcome]
    exact ⟨fun _ _ => safe_refuse error, fun _ impossible => by cases impossible⟩
  · obtain ⟨_, _, _, _, _, _, _, _, last', _, _, _, bound, usable, _⟩ :=
      sound.executable executable
    rw [last] at last'
    cases last'
    have given : ∀ tensor ∈ inputs ++ outputs, tensor.Usable :=
      fun tensor member => (valid tensor member).usable
    obtain ⟨sameInputs, sameOutputs⟩ :=
      Operator.signatures_of_checkBound bound usable given checked
    obtain ⟨output, requested, kernel, rfl, runs⟩ := sound.runs executable last
      (fun tensor member => (valid₀ tensor member).sized) sameInputs sameOutputs given
      fun tensor member => (valid tensor member).sized
    have served : ∀ tensor ∈ output :: inputs, tensor.Valid :=
      fun tensor member => valid tensor (by simpa [or_comm] using member)
    rw [show executed.outcome = _ from (runs.executed ledger).1]
    exact ⟨fun fits filled => Operator.safe_reported (runs.safe served fits filled ledger),
      fun cuts done => runs.rows served (mapError_eq_ok.1 done) cuts⟩

theorem lastPrepared?_performAll {registry : Registry} {calls : List OperatorCall}
    (noPrepare : ∀ call ∈ calls, call.isPrepare = false) (run : OperatorRun) :
    OperatorEvent.lastPrepared? (run.performAll registry calls).history =
      OperatorEvent.lastPrepared? run.history := by
  induction calls generalizing run with
  | nil => rfl
  | cons call rest ih =>
      refine (ih (fun later member => noPrepare later (by simp [member])) _).trans ?_
      have kind := noPrepare call (by simp)
      cases call with
      | prepare => cases kind
      | execute inputs outputs ledger =>
          unfold perform Operator.perform
          dsimp only
          split <;> rfl
      | release => rfl

end OperatorRun

namespace Operator

theorem since_prepare (name : String) (params : Params) (lifetime : StateLifetime)
    (allowFallback : Bool) {before later : List OperatorCall}
    (usable : ∀ call ∈ before, call.Usable) (noPrepare : ∀ call ∈ later, call.isPrepare = false)
    (backend : Backend) {inputs outputs : List Tensor}
    (given : ∀ tensor ∈ inputs ++ outputs, tensor.Usable) (ledger : ShadowLedger) :
    let run := (OperatorRun.start (create name params lifetime allowFallback)).performAll
      Registry.default before
    let current := (run.perform Registry.default (.prepare backend inputs outputs ledger)).performAll
      Registry.default later
    (run.operator.prepare Registry.default backend inputs outputs ledger).outcome = .ok () →
    current.Sound Registry.default ∧
      current.operator.renewed = create name params lifetime allowFallback ∧
      OperatorEvent.lastPrepared? current.history = some (backend, inputs, outputs) := by
  intro run current ready
  have reads := Registry.default_hooksReadContents
  have prepareUsable : (OperatorCall.prepare backend inputs outputs ledger).Usable := given
  have laterUsable : ∀ call ∈ later, call.Usable := by
    intro call member
    have kind := noPrepare call member
    cases call with
    | prepare => cases kind
    | execute => trivial
    | release => trivial
  refine ⟨(((OperatorRun.start_sound name params lifetime allowFallback).performAll reads
    usable).perform reads prepareUsable).performAll reads laterUsable, ?_, ?_⟩
  · exact (OperatorRun.performAll_renewed _ Registry.default later).trans
      ((run.performAll_renewed Registry.default [.prepare backend inputs outputs ledger]).trans
        ((OperatorRun.start (create name params lifetime allowFallback)).performAll_renewed
          Registry.default before))
  · refine (OperatorRun.lastPrepared?_performAll noPrepare _).trans ?_
    simp only [OperatorRun.perform, Operator.perform, ready]
    rfl

/-- Whatever was called on an operator before, once it is prepared no run of it aborts until it is
prepared again, on any valid tensors, natively or through shadows, unless the padded extents leave
the machine's words or the run has to cut its output into rows that hold nothing. A run of the
latter kind never succeeds. -/
theorem prepared_runs_are_safe (name : String) (params : Params) (lifetime : StateLifetime)
    (allowFallback : Bool) {before later : List OperatorCall}
    (usable : ∀ call ∈ before, call.Usable) (noPrepare : ∀ call ∈ later, call.isPrepare = false)
    (backend : Backend) {inputs₀ outputs₀ inputs outputs : List Tensor}
    (valid₀ : ∀ tensor ∈ inputs₀ ++ outputs₀, tensor.Valid)
    (valid : ∀ tensor ∈ inputs ++ outputs, tensor.Valid) (ledger ledger' : ShadowLedger) :
    let run := (OperatorRun.start (create name params lifetime allowFallback)).performAll
      Registry.default before
    let prepared := run.perform Registry.default (.prepare backend inputs₀ outputs₀ ledger)
    let current := prepared.performAll Registry.default later
    let executed := current.operator.execute Registry.default inputs outputs ledger'
    (run.operator.prepare Registry.default backend inputs₀ outputs₀ ledger).outcome = .ok () →
    (params.PadsFit inputs → ¬ CutsEmptyRows params backend inputs outputs →
        executed.outcome.Safe) ∧
      (CutsEmptyRows params backend inputs outputs → executed.outcome ≠ .ok ()) := by
  intro run prepared current executed ready
  obtain ⟨sound, renewed, last⟩ := since_prepare name params lifetime allowFallback usable noPrepare
    backend (fun tensor member => (valid₀ tensor member).usable) ledger ready
  have settings : current.operator.params = params := congrArg Operator.params renewed
  have safe := sound.execute_safe last
    (fun tensor member => valid₀ tensor (List.mem_append_left _ member)) valid ledger'
  rwa [settings] at safe

end Operator

end

namespace Operator

def zeroMatrix (name : String) (rows columns : Nat) : Tensor :=
  ⟨name, ⟨[rows, columns]⟩, .nc, none, .external, .f32 (.replicate (rows * columns) ⟨0⟩)⟩

theorem emptyBatch_runs_safely :
    let inputs := [zeroMatrix "x" 0 3, zeroMatrix "w" 2 3]
    let outputs := [zeroMatrix "y" 0 2]
    let run := OperatorRun.start (create "fc" (.fullyConnected .relu) .untilRelease true)
    let prepared := run.perform Registry.default (.prepare .avx2 inputs outputs .empty)
    let current := prepared.performAll Registry.default [.execute inputs outputs .empty]
    (run.operator.prepare Registry.default .avx2 inputs outputs .empty).outcome = .ok () ∧
      ¬ CutsEmptyRows (.fullyConnected .relu) .avx2 inputs outputs ∧
      (current.operator.execute Registry.default inputs outputs .empty).outcome.Safe := by
  intro inputs outputs run prepared current
  have ready : (run.operator.prepare Registry.default .avx2 inputs outputs .empty).outcome =
      .ok () := eq_ok_of_toBool (by decide +kernel)
  have valid : ∀ tensor ∈ inputs ++ outputs, tensor.Valid := by
    simp only [inputs, outputs, List.cons_append, List.nil_append, List.forall_mem_cons]
    exact ⟨by rfl, by rfl, by rfl, fun _ impossible => by cases impossible⟩
  have filled : ¬ CutsEmptyRows (.fullyConnected .relu) .avx2 inputs outputs := by
    rintro ⟨_, _, _, _, same, empty⟩
    obtain rfl := List.singleton_inj.1 same
    exact absurd empty (by decide)
  have noCalls : ∀ call ∈ ([] : List OperatorCall), call.Usable := by
    simp
  have noPrepare : ∀ call ∈ [OperatorCall.execute inputs outputs .empty],
      call.isPrepare = false := by
    simp [OperatorCall.isPrepare]
  have safe := (prepared_runs_are_safe "fc" (.fullyConnected .relu) .untilRelease true noCalls
    noPrepare .avx2 valid valid .empty .empty ready).1 trivial filled
  exact ⟨ready, filled, safe⟩

/-- Weights without rows are accepted, and the run then aborts on the empty rows of its output. -/
theorem emptyRows_abort :
    let inputs := [zeroMatrix "x" 1 1, zeroMatrix "w" 0 1]
    let outputs := [zeroMatrix "y" 1 0]
    let fresh := create "fc" (.fullyConnected .none) .untilRelease false
    let prepared := fresh.prepare Registry.default .reference inputs outputs .empty
    (∀ tensor ∈ inputs ++ outputs, tensor.Valid) ∧ prepared.outcome = .ok () ∧
      (prepared.operator.execute Registry.default inputs outputs .empty).outcome =
        .error .aborted := by
  intro inputs outputs fresh prepared
  have valid : ∀ tensor ∈ inputs ++ outputs, tensor.Valid := by
    simp only [inputs, outputs, List.cons_append, List.nil_append, List.forall_mem_cons]
    exact ⟨by rfl, by rfl, by rfl, fun _ impossible => by cases impossible⟩
  exact ⟨valid, eq_ok_of_toBool (by decide +kernel), by decide +kernel⟩

end Operator

end TensorRuntime
