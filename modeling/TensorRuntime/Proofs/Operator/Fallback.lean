import TensorRuntime.Proofs.Operator.Calls
import TensorRuntime.Proofs.Operator.Frames
import TensorRuntime.Proofs.Records
import TensorRuntime.Proofs.Session.Running

/-!
The fallback path against a native run in single precision. Both resolve to one kernel,
derive its state from the same views and run it on the same shadows, so what the fallback
stores are the values that the native run leaves.
-/

namespace TensorRuntime

open Attempt

section

variable [Host]

namespace Tensor

variable {tensor : Tensor}

/-- The real values of an integer tensor under its name, shape and layout; another tensor as it
is. -/
def realView (tensor : Tensor) : Attempt Tensor :=
  if tensor.elementType.isInteger then tensor.dequantized else pure tensor

theorem realView_eq_floatView (valid : tensor.Valid) : tensor.realView = tensor.floatView := by
  unfold realView floatView needsShadow
  cases integer : tensor.elementType.isInteger with
  | false => rfl
  | true =>
      obtain ⟨record, recorded, _⟩ := valid.record integer
      rw [recorded]
      rfl

theorem floatView_elementType {view : Tensor} (valid : tensor.Valid)
    (integer : tensor.elementType.isInteger = true) (viewed : tensor.floatView = .ok view) :
    view.elementType = .f32 := by
  obtain ⟨bare, _⟩ | ⟨_, values, _, rfl, _⟩ := floatView_eq_ok viewed
  · obtain ⟨record, recorded, _⟩ := valid.record integer
    simp [needsShadow, integer, recorded] at bare
  · rfl

end Tensor

omit [Host] in
theorem ElementType.isInteger_of_isLowPrecision {elementType : ElementType}
    (low : elementType.isLowPrecision = true) : elementType.isInteger = true := by
  cases elementType <;> first | rfl | cases low

theorem mapM_realView {inputs : List Tensor} (valid : ∀ tensor ∈ inputs, tensor.Valid) :
    inputs.mapM Tensor.realView = inputs.mapM Tensor.floatView := by
  induction inputs with
  | nil => rfl
  | cons input rest ih =>
      rw [List.mapM_cons, List.mapM_cons, Tensor.realView_eq_floatView (valid input (by simp)),
        ih fun tensor member => valid tensor (by simp [member])]

namespace BoundTensors

omit [Host] in
theorem signatures_of_mismatch? {bound : List Signature} {given : List Tensor} {place : Nat}
    (lengths : bound.length = given.length)
    (boundUsable : ∀ signature ∈ bound, Quantization.UsableOption signature.quantization)
    (usable : ∀ tensor ∈ given, tensor.Usable) (matched : mismatch? bound given place = none) :
    given.map Tensor.signature = bound := by
  induction given generalizing bound place with
  | nil =>
      cases bound with
      | nil => rfl
      | cons => cases lengths
  | cons tensor rest ih =>
      cases bound with
      | nil => cases lengths
      | cons signature others =>
          rw [mismatch?] at matched
          split at matched
          · rename_i accepted
            have own := (Signature.accepts_iff (usable tensor (by simp))
              (boundUsable signature (by simp))).1 accepted
            rw [List.map_cons, own.1, ih (by simpa using lengths)
              (fun other member => boundUsable other (by simp [member]))
              (fun other member => usable other (by simp [member])) matched]
          · cases matched

end BoundTensors

namespace Operator

omit [Host] in
theorem signatures_of_checkBound {operator : Operator} {kernel : Kernel}
    {inputs₀ outputs₀ inputs outputs : List Tensor}
    (bound : operator.binding.bound? = some (.capture kernel inputs₀ outputs₀))
    (boundUsable : ∀ tensor ∈ inputs₀ ++ outputs₀, tensor.Usable)
    (usable : ∀ tensor ∈ inputs ++ outputs, tensor.Usable)
    (checked : operator.checkBound inputs outputs = .ok ()) :
    inputs.map Tensor.signature = inputs₀.map Tensor.signature ∧
      outputs.map Tensor.signature = outputs₀.map Tensor.signature := by
  have role : ∀ {name role : String} {tensors given : List Tensor},
      (∀ tensor ∈ tensors, tensor.Usable) → (∀ tensor ∈ given, tensor.Usable) →
      BoundTensors.checkRole name role (tensors.map Tensor.signature) given = .ok () →
        given.map Tensor.signature = tensors.map Tensor.signature := by
    intro name role tensors given tensorsUsable givenUsable passed
    unfold BoundTensors.checkRole at passed
    split at passed
    · cases passed
    · rename_i lengths
      split at passed
      · rename_i matched
        refine BoundTensors.signatures_of_mismatch? (Classical.not_not.1 lengths) ?_ givenUsable
          matched
        intro signature listed
        obtain ⟨tensor, member, rfl⟩ := List.mem_map.1 listed
        exact tensorsUsable tensor member
      · cases passed
  unfold checkBound at checked
  rw [bound] at checked
  obtain ⟨_, first, second⟩ := bind_eq_ok.1 checked
  rw [List.forall_mem_append] at boundUsable usable
  exact ⟨role boundUsable.1 usable.1 first, role boundUsable.2 usable.2 second⟩

/-- What an operator gives on real values: a new operator with the same settings, which has to be
served natively, is prepared and run on real views of the inputs and on a zero-filled
single-precision shadow of the output, and the values that it leaves are stored in the output. -/
def nativeOnReals (operator : Operator) (registry : Registry) (backend : Backend)
    (inputs : List Tensor) (output : Tensor) : Attempt Tensor := do
  let views ← inputs.mapM Tensor.realView
  let shadow ← output.zeroShadow
  let result := { operator with allowFallback := false }.freshRun registry backend views views
    [shadow]
  result.outcome
  match result.outputs with
  | [written] => output.writeSingles (← written.toSingles)
  | _ => Attempt.abort

end Operator

theorem Kernel.onShadows_eq_ok {kernel : Kernel} {params : Params} {inputs : List Tensor}
    {output stored : Tensor} {derived : Option Derived} :
    kernel.onShadows params inputs output derived = .ok stored ↔
      ∃ views shadow written values, inputs.mapM Tensor.floatView = .ok views ∧
        output.zeroShadow = .ok shadow ∧
        (kernel.run ⟨params, views, [shadow], derived⟩).outcome = .ok () ∧
        (kernel.run ⟨params, views, [shadow], derived⟩).outputs = [written] ∧
        written.toSingles = .ok values ∧ output.writeSingles values = .ok stored := by
  unfold onShadows
  simp only [bind_eq_ok]
  constructor
  · rintro ⟨views, viewed, shadow, shadowed, _, ran, written⟩
    split at written
    · rename_i written own
      obtain ⟨values, read, stored⟩ := bind_eq_ok.1 written
      exact ⟨views, shadow, _, values, viewed, shadowed, ran, own, read, stored⟩
    · cases written
  · rintro ⟨views, shadow, written, values, viewed, shadowed, ran, own, read, stored⟩
    refine ⟨views, viewed, shadow, shadowed, (), ran, ?_⟩
    rw [own]
    exact bind_eq_ok.2 ⟨values, read, stored⟩

theorem Operator.plan_on_views {operator : Operator} {registry : Registry} {backend : Backend}
    {inputs views : List Tensor} {output shadow : Tensor} {requested : Resolution} {kernel : Kernel}
    (planned : operator.plan registry backend inputs [output] =
      .ok (requested, kernel, .capture kernel inputs [output]))
    (path : requested.path = .quantFallback) (valid : ∀ tensor ∈ inputs, tensor.Valid)
    (viewed : inputs.mapM Tensor.floatView = .ok views)
    (shadowed : output.zeroShadow = .ok shadow) :
    ∃ native, native.path = .native ∧
      { operator with allowFallback := false }.plan registry backend views [shadow] =
        .ok (native, kernel, .capture kernel views [shadow]) := by
  obtain ⟨checked, resolved, found, _⟩ := plan_eq_ok planned
  obtain ⟨_, input, others, sameOutput, rfl, inferred, _⟩ := checkOutputs_eq_ok.1 checked
  cases sameOutput
  obtain ⟨op, _, _, id, _, elementType, chosenKernel, classified, same, chosen, present, supported,
    rfl⟩ := Registry.resolve_eq_ok.1 resolved
  cases same
  obtain ⟨listed, ⟨rfl, _⟩ | ⟨_, rfl, low⟩⟩ := Registry.choose_cases chosen
  · cases path
  have outlines := floatViews_outlines viewed
  rw [List.mapM_cons] at viewed
  simp only [bind_eq_ok, pure_eq_ok] at viewed
  obtain ⟨view, firstViewed, rest, _, rfl⟩ := viewed
  have single : view.elementType = .f32 :=
    Tensor.floatView_elementType (valid input (by simp))
      (ElementType.isInteger_of_isLowPrecision low) firstViewed
  have sketch : view.outline = input.outline := (List.cons.inj outlines).1
  have layout : requestedLayout view.outline = requestedLayout input.outline := by
    rw [sketch]
  obtain ⟨_, rfl, _⟩ := Tensor.zeroShadow_eq_ok.1 shadowed
  refine ⟨⟨op, id, .native, backend, requestedLayout view, .f32⟩, rfl, plan_of_resolved ?_ ?_ found⟩
  · exact checkOutputs_eq_ok.2 ⟨_, view, rest, rfl, rfl,
      Params.outputShape_of_outlines outlines inferred, single.symm⟩
  · refine Registry.resolve_eq_ok.2 ⟨op, view, rest, id, .native, .f32, kernel,
      Params.classify_of_outlines outlines classified, rfl, ?_, found, ?_, rfl⟩
    · rw [single]
      exact Registry.choose_native listed
    · rw [present] at found
      cases found
      rw [show requestedLayout view = requestedLayout input from layout]
      exact supported

theorem Operator.nativeOnReals_of_plan {operator : Operator} {registry : Registry}
    {backend : Backend} {inputs views : List Tensor} {output shadow written stored : Tensor}
    {native : Resolution} {kernel : Kernel} {derived : Option Derived} {values : Array Single}
    (valid : ∀ tensor ∈ inputs, tensor.Valid) (viewed : inputs.mapM Tensor.floatView = .ok views)
    (shadowed : output.zeroShadow = .ok shadow)
    (planned : { operator with allowFallback := false }.plan registry backend views [shadow] =
      .ok (native, kernel, .capture kernel views [shadow]))
    (path : native.path = .native)
    (hooked : kernel.precompute operator.params views = .ok derived)
    (ran : (kernel.run ⟨operator.params, views, [shadow], derived⟩).outcome = .ok ())
    (left : (kernel.run ⟨operator.params, views, [shadow], derived⟩).outputs = [written])
    (read : written.toSingles = .ok values) (stores : output.writeSingles values = .ok stored) :
    operator.nativeOnReals registry backend inputs output = .ok stored := by
  obtain ⟨_, _, shadowValid⟩ := Tensor.zeroShadow_eq_ok.1 shadowed
  have allValid : ∀ tensor ∈ views ++ [shadow], tensor.Valid := by
    intro tensor member
    rcases List.mem_append.1 member with view | own
    · exact floatViews_valid valid viewed tensor view
    · rw [List.mem_singleton.1 own]
      exact shadowValid
  have derives : ({ operator with allowFallback := false }.derive kernel native.path views
      .empty).2 = .ok derived := by
    rw [path]
    exact (derive_native _ _ _ .empty).trans hooked
  have fresh := freshRun_eq planned derives rfl
    (fun tensor member => (allValid tensor member).usable)
    fun tensor member => (allValid tensor member).sized
  rw [path] at fresh
  obtain ⟨outputs, outcome⟩ := fresh
  unfold nativeOnReals
  simp only [bind_eq_ok]
  refine ⟨views, (mapM_realView valid).trans viewed, shadow, shadowed, (), outcome ran, ?_⟩
  rw [outputs.trans left]
  exact bind_eq_ok.2 ⟨values, read, stores⟩

namespace OperatorRun

variable {registry : Registry} {run : OperatorRun} {backend : Backend}
  {inputs outputs₀ outputs : List Tensor} {resolution : Resolution} {ledger : ShadowLedger}

theorem Sound.signatures_of_done (sound : run.Sound registry) {inputs₀ : List Tensor}
    (last : OperatorEvent.lastPrepared? run.history = some (backend, inputs₀, outputs₀))
    (usable : ∀ tensor ∈ inputs ++ outputs, tensor.Usable)
    (done : (run.operator.execute registry inputs outputs ledger).outcome = .ok ()) :
    inputs.map Tensor.signature = inputs₀.map Tensor.signature ∧
      outputs.map Tensor.signature = outputs₀.map Tensor.signature := by
  obtain ⟨executable, checked, _⟩ := Operator.execute_done done
  obtain ⟨_, _, _, _, _, _, _, _, last', _, _, _, bound, boundUsable, _⟩ :=
    sound.executable executable
  cases last.symm.trans last'
  exact Operator.signatures_of_checkBound bound boundUsable usable checked

theorem Sound.execute_fallback (sound : run.Sound registry) (keeps : registry.KeepsFrames)
    (last : OperatorEvent.lastPrepared? run.history = some (backend, inputs, outputs₀))
    (present : run.operator.binding.resolution? = some resolution)
    (path : resolution.path = .quantFallback) (valid : ∀ tensor ∈ inputs ++ outputs, tensor.Valid)
    (done : (run.operator.execute registry inputs outputs ledger).outcome = .ok ()) :
    ∃ output stored, outputs = [output] ∧
      (run.operator.execute registry inputs outputs ledger).outputs = [stored] ∧
      run.operator.nativeOnReals registry backend inputs output = .ok stored := by
  obtain ⟨_, requested, kernel, present', found, samePath, planned, derived, ran, wrote⟩ :=
    sound.execute_planned last done
  cases present.symm.trans present'
  rw [samePath] at path
  have again := Operator.plan_of_signatures rfl (sound.signatures_of_done last
    (fun tensor member => (valid tensor member).usable) done).2 planned
  obtain ⟨output, _, _, rfl, _⟩ := Operator.checkOutputs_eq_ok.1 (Operator.plan_eq_ok again).1
  have inputsValid : ∀ tensor ∈ inputs, tensor.Valid :=
    fun tensor member => valid tensor (List.mem_append_left _ member)
  obtain ⟨entry, member, own⟩ := Registry.mem_of_kernel? found
  rw [path] at ran wrote
  change (kernel.runOnShadows ⟨run.operator.params, inputs, [output],
    run.operator.binding.derived?⟩ ledger).2.outcome = .ok () at ran
  change _ = (kernel.runOnShadows ⟨run.operator.params, inputs, [output],
    run.operator.binding.derived?⟩ ledger).2.outputs at wrote
  rw [Kernel.runOnShadows_eq (own ▸ keeps entry member) fun tensor member =>
    (inputsValid tensor member).sized] at ran wrote
  cases stores : kernel.onShadows run.operator.params inputs output
      run.operator.binding.derived? with
  | error fault =>
      rw [stores] at ran
      cases ran
  | ok stored =>
      rw [stores] at wrote
      refine ⟨output, stored, rfl, wrote, ?_⟩
      obtain ⟨views, shadow, written, values, viewed, shadowed, kernelRan, left, read, stores⟩ :=
        Kernel.onShadows_eq_ok.1 stores
      have hooked : kernel.precompute run.operator.params views =
          .ok run.operator.binding.derived? := by
        have derived' := derived .empty
        rw [path] at derived'
        rcases Operator.precompute_of_derive_fallback derived' with always | ⟨_, viewed', hooked⟩
        · exact always views
        · rw [viewed] at viewed'
          cases viewed'
          exact hooked
      obtain ⟨native, nativePath, nativePlanned⟩ := Operator.plan_on_views again path inputsValid
        viewed shadowed
      exact Operator.nativeOnReals_of_plan inputsValid viewed shadowed nativePlanned nativePath
        hooked kernelRan left read stores

theorem performAll_renewed (run : OperatorRun) (registry : Registry) (calls : List OperatorCall) :
    (run.performAll registry calls).operator.renewed = run.operator.renewed := by
  induction calls generalizing run with
  | nil => rfl
  | cons call rest ih =>
      refine (ih (run.perform registry call)).trans ?_
      cases call with
      | prepare => exact run.operator.renewed_prepare _ _ _ _ _
      | execute => exact run.operator.renewed_execute _ _ _ _
      | release => exact run.operator.renewed_release

end OperatorRun

namespace Operator

theorem nativeOnReals_of_renewed {operator operator' : Operator}
    (same : operator'.renewed = operator.renewed) (registry : Registry) (backend : Backend)
    (inputs : List Tensor) (output : Tensor) :
    operator'.nativeOnReals registry backend inputs output =
      operator.nativeOnReals registry backend inputs output := by
  simp only [renewed, create, Operator.mk.injEq] at same
  unfold nativeOnReals freshRun renewed
  simp only [same]

/-- Whatever was called on an operator before, when it is prepared through shadows and then runs on
the inputs it was prepared with, its output takes the values of a native run in single precision
on the real values of the inputs. Running it in a session leaves its inputs as they were. -/
theorem fallback_is_native_on_reals (name : String) (params : Params) (lifetime : StateLifetime)
    (allowFallback : Bool) {calls : List OperatorCall} (usable : ∀ call ∈ calls, call.Usable)
    (backend : Backend) {inputs outputs₀ outputs : List Tensor}
    (valid : ∀ tensor ∈ inputs ++ outputs₀ ++ outputs, tensor.Valid)
    (ledger ledger' : ShadowLedger) :
    let fresh := create name params lifetime allowFallback
    let before := ((OperatorRun.start fresh).performAll Registry.default calls).operator
    let prepared := before.prepare Registry.default backend inputs outputs₀ ledger
    let executed := prepared.operator.execute Registry.default inputs outputs ledger'
    prepared.outcome = .ok () →
    (∃ resolution, prepared.operator.binding.resolution? = some resolution ∧
      resolution.path = .quantFallback) →
    executed.outcome = .ok () →
    (∃ output stored, outputs = [output] ∧ executed.outputs = [stored] ∧
      fresh.nativeOnReals Registry.default backend inputs output = .ok stored) ∧
    ∀ (session : Session) (index : Nat) (node : Node), node.operator = prepared.operator →
      ∀ id ∈ node.inputs, id ∉ node.outputs →
        (session.runNode index node).1.slots[id]? = session.slots[id]? := by
  intro fresh before prepared executed ready resolved done
  refine ⟨?_, fun session index node _ id _ outside => Session.runNode_other outside⟩
  have sound := (OperatorRun.start_sound name params lifetime allowFallback).performAll
    Registry.default_hooksReadContents usable
  obtain ⟨bound, _⟩ := sound.prepare_done Registry.default_hooksReadContents
    (fun tensor member => (valid tensor (List.mem_append_left _ member)).usable) ready
  obtain ⟨resolution, present, path⟩ := resolved
  obtain ⟨output, stored, own, wrote, native⟩ := bound.execute_fallback Registry.default_keepsFrames
    rfl present path (fun tensor member => valid tensor (by
      rcases List.mem_append.1 member with input | output
      · simp [input]
      · simp [output])) done
  refine ⟨output, stored, own, wrote, ?_⟩
  rw [← native]
  refine (nativeOnReals_of_renewed ?_ _ _ _ _).symm
  obtain ⟨binding, changed⟩ :=
    before.prepare_operator Registry.default backend inputs outputs₀ ledger
  have settings : prepared.operator.renewed = before.renewed := by
    change (before.prepare Registry.default backend inputs outputs₀ ledger).operator.renewed = _
    rw [changed]
    rfl
  exact settings.trans ((OperatorRun.start fresh).performAll_renewed Registry.default calls)

end Operator

end

namespace Operator

def bytePair (name : String) (scale : UInt32) (zeroPoint : Int) (first second : Int8) : Tensor :=
  ⟨name, ⟨[2]⟩, .any, some (.perTensor ⟨⟨scale⟩, zeroPoint⟩), .external, .i8 #[first, second]⟩

theorem clamp_falls_back :
    let inputs := [bytePair "x" 0x3F000000 0 20 (-4)]
    let output := bytePair "y" 0x3E800000 3 0 0
    let fresh := create "clamp" (.activation .relu6) .untilRelease true
    let prepared := fresh.prepare Registry.default .reference inputs [output] .empty
    let executed := prepared.operator.execute Registry.default inputs [output] .empty
    executed.outcome = .ok () ∧
      (executed.outputs.map fun tensor => tensor.buffer.bytes) = [[27, 3]] ∧
      ∃ stored, executed.outputs = [stored] ∧
        fresh.nativeOnReals Registry.default .reference inputs output = .ok stored := by
  intro inputs output fresh prepared executed
  have ready : prepared.outcome = .ok () := eq_ok_of_toBool (by decide +kernel)
  have done : executed.outcome = .ok () := eq_ok_of_toBool (by decide +kernel)
  have path : prepared.operator.binding.resolution?.map Resolution.path = some .quantFallback := by
    decide +kernel
  have valid : ∀ tensor ∈ inputs ++ [output] ++ [output], tensor.Valid := by
    simp only [inputs, output, List.cons_append, List.nil_append, List.forall_mem_cons]
    exact ⟨by rfl, by rfl, by rfl, fun _ impossible => by cases impossible⟩
  have calls : ∀ call ∈ ([] : List OperatorCall), call.Usable := by
    simp
  obtain ⟨⟨_, stored, own, wrote, native⟩, _⟩ := fallback_is_native_on_reals "clamp"
    (.activation .relu6) .untilRelease true calls .reference valid .empty .empty ready
    (Option.map_eq_some_iff.1 path) done
  cases own
  exact ⟨done, by decide +kernel, stored, wrote, native⟩

end Operator

end TensorRuntime
