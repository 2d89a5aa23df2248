import TensorRuntime.Proofs.Kernel.Progress.Catalogue
import TensorRuntime.Proofs.Operator.Safety

/-!
A prepared operator runs to its end. On tensors that hold something, what a prepare checks
leaves the kernel no reason to refuse a call on singles and no read outside a buffer, and
the fallback only needs room for its shadows.
-/

namespace TensorRuntime

open Attempt

section Extents

theorem ImageDims.channels_mem {dims : List Nat} {layout : Layout} {image : ImageDims}
    (found : ofDims dims layout = .ok image) : image.channels ∈ dims := by
  obtain ⟨_, _, rfl⟩ | ⟨_, _, rfl⟩ := ofDims_cases found
  · simp
  · simp

theorem ImageDims.last_shapeWith {image : ImageDims} {channels : Nat}
    (last : image.channelsLast = true) (filled : channels ≠ 0) (height width : Nat) :
    (image.shapeWith channels height width).dims.getLast? ≠ some 0 := by
  rw [shapeWith, if_pos last]
  simpa using filled

theorem Backend.family_of_cutsRows {backend : Backend} {op : OpKind}
    (cuts : backend.cutsRows op = true) :
    op.family = "conv2d" ∨ op.family = "pool2d" ∨ op.family = "fully_connected" := by
  revert cuts
  cases op <;> simp [OpKind.family, cutsRows]

theorem Params.last_of_outputShape {params : Params} {input : Tensor} {others : List Tensor}
    {shape : Shape} (inferred : params.outputShapeOf input others = .ok shape)
    (family : params.family = "conv2d" ∨ params.family = "pool2d" ∨
      params.family = "fully_connected")
    (layout : params.family ≠ "fully_connected" → input.layout = .nhwc)
    (filled : ∀ tensor ∈ input :: others, 0 ∉ tensor.dims) : shape.dims.getLast? ≠ some 0 := by
  cases params with
  | conv2d settings =>
      obtain ⟨weights, rest, rfl, fits⟩ := weights_of_conv2d inferred
      have weightsFilled : 0 ∉ weights.dims := filled weights (by simp)
      obtain ⟨image, outPerGroup, _, _, _, height, width, found, dims, _, _, _, _, _, rfl⟩ :=
        convOutputShape_eq_ok fits
      have last := (ImageDims.ofTensor_channelsLast (layout (by simp [Params.family])) found).1
      rw [dims] at weightsFilled
      refine ImageDims.last_shapeWith last (fun zero => weightsFilled ?_) height width
      simp [zero]
  | pool2d settings =>
      obtain ⟨image, height, width, found, _, _, rfl⟩ :=
        poolOutputShape_eq_ok (lift_eq_ok.1 inferred)
      have last := (ImageDims.ofTensor_channelsLast (layout (by simp [Params.family])) found).1
      have channels := ImageDims.channels_mem (ImageDims.ofTensor_eq_ok.1 found)
      exact ImageDims.last_shapeWith last
        (fun zero => filled input (by simp) (zero ▸ channels)) height width
  | fullyConnected activation =>
      obtain ⟨weights, rest, rfl, fits⟩ := weights_of_fullyConnected inferred
      have weightsFilled : 0 ∉ weights.dims := filled weights (by simp)
      obtain ⟨rows, inner, columns, _, dims, shapeDims, _⟩ := fullyConnectedOutputShape_eq_ok fits
      rw [dims] at weightsFilled
      rw [shapeDims]
      intro empty
      obtain rfl : columns = 0 := by simpa using empty
      simp at weightsFilled
  | _ => simp [Params.family] at family

end Extents

section

variable [Host]

namespace Tensor

variable {tensor view : Tensor}

omit [Host] in
theorem elementType_of_signature {tensor' : Tensor} (same : tensor'.signature = tensor.signature) :
    tensor'.elementType = tensor.elementType := by
  simp only [Tensor.signature, Signature.mk.injEq] at same
  exact same.2.1

omit [Host] in
theorem count_of_signature {tensor' : Tensor} (same : tensor'.signature = tensor.signature) :
    tensor'.count = tensor.count :=
  congrArg volume (dims_of_signature same)

theorem floatView_dims (viewed : tensor.floatView = .ok view) : view.dims = tensor.dims := by
  obtain ⟨_, rfl⟩ | ⟨_, _, _, rfl, _⟩ := floatView_eq_ok viewed <;> rfl

theorem floatView_singles (valid : tensor.Valid)
    (real : tensor.elementType = .f32 ∨ tensor.elementType.isInteger = true)
    (viewed : tensor.floatView = .ok view) : view.elementType = .f32 := by
  rcases real with single | integer
  · obtain ⟨_, rfl⟩ | ⟨_, _, _, rfl, _⟩ := floatView_eq_ok viewed
    · exact single
    · rfl
  · exact floatView_elementType valid integer viewed

end Tensor

namespace Operator

section Plans

variable {operator : Operator} {backend : Backend} {inputs : List Tensor} {output : Tensor}
  {requested : Resolution} {kernel : Kernel} {bound : BoundTensors} {derived : Option Derived}

theorem not_cutsEmptyRows
    (planned : operator.plan Registry.default backend inputs [output] =
      .ok (requested, kernel, bound))
    (filled : ∀ tensor ∈ inputs, 0 ∉ tensor.dims) :
    ¬ CutsEmptyRows operator.params backend inputs [output] := by
  obtain ⟨checked, resolved, found, _⟩ := plan_eq_ok planned
  obtain ⟨op, input, others, id, path, elementType, _, classified, rfl, chosen, own, supported,
    rfl⟩ := Registry.resolve_eq_ok.1 resolved
  obtain ⟨_, _, _, same, _, inferred, _⟩ := checkOutputs_eq_ok.1 checked
  cases same
  obtain rfl := Option.some.inj (own.symm.trans found)
  have listed := Registry.listed_of_lookup (Registry.choose_cases chosen).1 found
  rintro ⟨_, _, classified', cuts, same, empty⟩
  cases same
  cases classified.symm.trans classified'
  have family := Backend.family_of_cutsRows cuts
  have layout : operator.params.family ≠ "fully_connected" → input.layout = .nhwc := by
    intro image
    rw [Params.family_of_classify classified] at image
    rcases Catalogue.kernelsOf_rowLayouts backend _ listed cuts with rfl | only
    · exact absurd rfl image
    · exact Kernel.layout_of_supports only supported
  rw [← Params.family_of_classify classified] at family
  obtain ⟨_, _, same, _, _, extents⟩ := Params.outputShape_eq_ok.1 inferred
  cases same
  exact Params.last_of_outputShape extents family layout filled empty

theorem progress_of_plan
    (planned : operator.plan Registry.default backend inputs [output] =
      .ok (requested, kernel, bound))
    (call : PreparedCall kernel.precompute operator.params inputs output derived)
    (valid : ∀ tensor ∈ output :: inputs, tensor.Valid)
    (singles : ∀ tensor ∈ inputs, tensor.elementType = .f32)
    (filled : ∀ tensor ∈ inputs, 0 ∉ tensor.dims) (fits : operator.params.PadsFit inputs) :
    (kernel.run ⟨operator.params, inputs, [output], derived⟩).outcome = .ok () := by
  obtain ⟨checked, resolved, found, _⟩ := plan_eq_ok planned
  obtain ⟨op, input, others, id, path, elementType, _, classified, rfl, chosen, own, supported,
    rfl⟩ := Registry.resolve_eq_ok.1 resolved
  obtain rfl := Option.some.inj (own.symm.trans found)
  obtain ⟨_, sameType⟩ := accepted_of_checkOutputs checked
  have single : elementType = .f32 := by
    rcases (Registry.choose_cases chosen).2 with ⟨_, rfl⟩ | ⟨_, rfl, _⟩
    · exact singles input (by simp)
    · rfl
  have listed := Registry.listed_of_lookup (Registry.choose_cases chosen).1 found
  have unrefused := (Catalogue.kernelsOf_unrefused backend _ listed single).run
    ⟨call, classified, fits, valid⟩
    (List.forall_mem_cons.2 ⟨sameType.trans (singles input (by simp)), singles⟩) supported
  have safe := safe_of_plan planned call valid fits (not_cutsEmptyRows planned filled)
  obtain ⟨_, done⟩ := safe.exists_ok unrefused
  exact done

end Plans

/-- A call that kernels for singles serve: its inputs hold singles, or it resolves to the fallback
and they hold singles and integers. -/
def ServedInSingles (operator : Operator) (backend : Backend) (inputs : List Tensor) : Prop :=
  (∀ tensor ∈ inputs, tensor.elementType = .f32) ∨
    (∃ requested, Registry.default.resolve operator.params inputs backend operator.allowFallback =
      .ok requested ∧ requested.path = .quantFallback) ∧
    ∀ tensor ∈ inputs, tensor.elementType = .f32 ∨ tensor.elementType.isInteger = true

end Operator

namespace OperatorRun.Runs

variable {run : OperatorRun} {backend : Backend} {inputs : List Tensor} {output : Tensor}
  {requested : Resolution} {kernel : Kernel}
  (runs : run.Runs Registry.default backend inputs output requested kernel)
  (valid : ∀ tensor ∈ output :: inputs, tensor.Valid)
  (filled : ∀ tensor ∈ inputs, 0 ∉ tensor.dims) (fits : run.operator.params.PadsFit inputs)

include runs valid filled fits

theorem succeeds_onShadows (path : requested.path = .quantFallback)
    (real : ∀ tensor ∈ inputs, tensor.elementType = .f32 ∨ tensor.elementType.isInteger = true)
    (room : ∀ tensor ∈ output :: inputs, tensor.elementType.isInteger = true → tensor.HasRoom) :
    ∃ stored, kernel.onShadows run.operator.params inputs output run.operator.binding.derived? =
      .ok stored := by
  have inputsValid : ∀ tensor ∈ inputs, tensor.Valid :=
    fun tensor member => valid tensor (List.mem_cons_of_mem _ member)
  have outputRoom : output.HasRoom :=
    room output (by simp) (Operator.output_isInteger runs.planned path)
  obtain ⟨views, viewed⟩ := exists_floatViews inputsValid fun tensor member needed => by
    unfold Tensor.needsShadow at needed
    rw [Bool.and_eq_true] at needed
    exact room tensor (List.mem_cons_of_mem _ member) needed.1
  obtain ⟨shadow, shadowed⟩ := (valid output (by simp)).exists_zeroShadow outputRoom
  obtain ⟨native, planned, call, viewsValid⟩ := runs.onViews valid path viewed shadowed
  have viewSingles : ∀ view ∈ views, view.elementType = .f32 := by
    intro view member
    obtain ⟨tensor, listed, own⟩ := exists_of_floatViews viewed member
    exact Tensor.floatView_singles (inputsValid tensor listed) (real tensor listed) own
  have viewsFilled : ∀ view ∈ views, 0 ∉ view.dims := by
    intro view member
    obtain ⟨tensor, listed, own⟩ := exists_of_floatViews viewed member
    exact Tensor.floatView_dims own ▸ filled tensor listed
  have ran := Operator.progress_of_plan planned call viewsValid viewSingles viewsFilled
    (fits.of_outlines (floatViews_outlines viewed))
  obtain ⟨written, left, frame⟩ := @Kernel.KeepsFrames.single kernel run.operator.params views
    shadow run.operator.binding.derived? runs.keepsFrames
    (fun view member => (viewsValid view (List.mem_cons_of_mem _ member)).sized)
    (viewsValid shadow (by simp)).sized
  have counts : written.count = output.count := by
    have kept := Tensor.count_of_signature (Tensor.signature_of_frame frame)
    obtain ⟨_, rfl, _⟩ := Tensor.zeroShadow_eq_ok.1 shadowed
    exact kept
  have writtenRoom : written.HasRoom := by
    unfold Tensor.HasRoom
    rw [counts]
    exact outputRoom
  obtain ⟨values, read⟩ :=
    ((viewsValid shadow (by simp)).of_frame frame).exists_toSingles writtenRoom
  obtain ⟨stored, kept⟩ := (valid output (by simp)).exists_writeSingles
    ((Tensor.size_of_toSingles read).trans counts)
  exact ⟨stored, Kernel.onShadows_eq_ok.2
    ⟨views, shadow, written, values, viewed, shadowed, ran, left, read, kept⟩⟩

theorem succeeds (served : run.operator.ServedInSingles backend inputs)
    (room : ∀ tensor ∈ output :: inputs, tensor.elementType.isInteger = true → tensor.HasRoom)
    (ledger : ShadowLedger) :
    (run.operator.runKernel kernel requested.path run.operator.binding.derived? inputs [output]
      ledger).2.outcome = .ok () := by
  cases path : requested.path with
  | native =>
      have singles : ∀ tensor ∈ inputs, tensor.elementType = .f32 := by
        rcases served with singles | ⟨⟨other, resolved, fallback⟩, _⟩
        · exact singles
        · cases (Operator.plan_eq_ok runs.planned).2.1.symm.trans resolved
          cases path.symm.trans fallback
      exact Operator.progress_of_plan runs.planned (runs.native path) valid singles filled fits
  | quantFallback =>
      have real : ∀ tensor ∈ inputs,
          tensor.elementType = .f32 ∨ tensor.elementType.isInteger = true := by
        rcases served with singles | ⟨_, real⟩
        · exact fun tensor member => .inl (singles tensor member)
        · exact real
      obtain ⟨stored, stores⟩ := runs.succeeds_onShadows valid filled fits path real room
      rw [runs.outcome_onShadows valid, stores]
      rfl

end OperatorRun.Runs

def OperatorCall.isExecute : OperatorCall → Bool
  | execute .. => true
  | prepare .. | release => false

theorem Operator.execute_stays {operator : Operator} (registry : Registry)
    (inputs outputs : List Tensor) (ledger : ShadowLedger)
    (lasting : operator.lifetime = .untilRelease)
    (executable : operator.binding.phase = .executable) :
    (operator.execute registry inputs outputs ledger).operator.lifetime = .untilRelease ∧
      (operator.execute registry inputs outputs ledger).operator.binding.phase = .executable := by
  by_cases done : (operator.execute registry inputs outputs ledger).outcome = .ok ()
  · rw [execute_operator_of_done done, executed_untilRelease lasting]
    exact ⟨lasting, executable⟩
  · rw [execute_failed done]
    exact ⟨lasting, executable⟩

namespace OperatorRun

variable {run : OperatorRun} {backend : Backend} {inputs₀ outputs₀ inputs outputs : List Tensor}

theorem executable_performAll {registry : Registry} {calls : List OperatorCall}
    (executes : ∀ call ∈ calls, call.isExecute = true) {run : OperatorRun}
    (lasting : run.operator.lifetime = .untilRelease)
    (executable : run.operator.binding.phase = .executable) :
    (run.performAll registry calls).operator.binding.phase = .executable := by
  induction calls generalizing run with
  | nil => exact executable
  | cons call rest ih =>
      have kind := executes call (by simp)
      cases call with
      | prepare => cases kind
      | release => cases kind
      | execute inputs outputs ledger =>
          obtain ⟨lasts, stays⟩ :=
            Operator.execute_stays registry inputs outputs ledger lasting executable
          exact ih (fun later member => executes later (by simp [member])) lasts stays

/-- An executable operator gives a result on tensors that hold something and carry the bound
signatures, where kernels for singles serve them and what they pad to is counted in words. -/
theorem Sound.execute_succeeds (sound : run.Sound Registry.default)
    (executable : run.operator.binding.phase = .executable)
    (last : OperatorEvent.lastPrepared? run.history = some (backend, inputs₀, outputs₀))
    (valid₀ : ∀ tensor ∈ inputs₀, tensor.Valid) (valid : ∀ tensor ∈ inputs ++ outputs, tensor.Valid)
    (sameInputs : inputs.map Tensor.signature = inputs₀.map Tensor.signature)
    (sameOutputs : outputs.map Tensor.signature = outputs₀.map Tensor.signature)
    (filled : ∀ tensor ∈ inputs, 0 ∉ tensor.dims) (fits : run.operator.params.PadsFit inputs)
    (served : run.operator.ServedInSingles backend inputs)
    (room : ∀ tensor ∈ inputs ++ outputs, tensor.elementType.isInteger = true → tensor.HasRoom)
    (ledger : ShadowLedger) :
    (run.operator.execute Registry.default inputs outputs ledger).outcome = .ok () := by
  obtain ⟨output, requested, kernel, rfl, runs⟩ := sound.runs executable last
    (fun tensor member => (valid₀ tensor member).sized) sameInputs sameOutputs
    (fun tensor member => (valid tensor member).usable)
    fun tensor member => (valid tensor member).sized
  have around : ∀ tensor ∈ output :: inputs, tensor ∈ inputs ++ [output] :=
    fun tensor member => by simpa [or_comm] using member
  rw [(runs.executed ledger).1, runs.succeeds
    (fun tensor member => valid tensor (around tensor member)) filled fits served
    (fun tensor member => room tensor (around tensor member)) ledger]
  rfl

end OperatorRun

namespace Operator

omit [Host] in
theorem forall_of_signatures {property : Tensor → Prop} {tensors tensors' : List Tensor}
    (reads : ∀ {tensor tensor' : Tensor}, tensor'.signature = tensor.signature →
      property tensor → property tensor')
    (same : tensors'.map Tensor.signature = tensors.map Tensor.signature)
    (every : ∀ tensor ∈ tensors, property tensor) : ∀ tensor ∈ tensors', property tensor := by
  intro tensor' member
  have listed : tensor'.signature ∈ tensors.map Tensor.signature :=
    same ▸ List.mem_map_of_mem member
  obtain ⟨tensor, inside, own⟩ := List.mem_map.1 listed
  exact reads own.symm (every tensor inside)

theorem ServedInSingles.of_signatures {operator : Operator} {backend : Backend}
    {inputs inputs' : List Tensor} (served : operator.ServedInSingles backend inputs)
    (same : inputs'.map Tensor.signature = inputs.map Tensor.signature) :
    operator.ServedInSingles backend inputs' := by
  rcases served with singles | ⟨⟨requested, resolved, path⟩, real⟩
  · refine .inl (forall_of_signatures (fun own single => ?_) same singles)
    exact (Tensor.elementType_of_signature own).trans single
  · refine .inr ⟨⟨requested, Registry.resolve_of_signatures same resolved, path⟩,
      forall_of_signatures (fun own real => ?_) same real⟩
    rwa [Tensor.elementType_of_signature own]

/-- Whatever was called on an operator before, a prepare that succeeds leaves it executable, and
until the next prepare every run of an executable operator on tensors with the bound signatures
succeeds: on inputs that hold something, all of them singles, or, where the call falls back to
singles, singles and integers with room for their shadows, and with padding that words count. A
lasting operator stays executable however often it runs. -/
theorem prepared_runs_succeed (name : String) (params : Params) (lifetime : StateLifetime)
    (allowFallback : Bool) {before later : List OperatorCall}
    (usable : ∀ call ∈ before, call.Usable) (noPrepare : ∀ call ∈ later, call.isPrepare = false)
    (backend : Backend) {inputs₀ outputs₀ inputs outputs : List Tensor}
    (valid₀ : ∀ tensor ∈ inputs₀ ++ outputs₀, tensor.Valid)
    (filled : ∀ tensor ∈ inputs₀, 0 ∉ tensor.dims) (fits : params.PadsFit inputs₀)
    (served : (create name params lifetime allowFallback).ServedInSingles backend inputs₀)
    (room : ∀ tensor ∈ inputs₀ ++ outputs₀, tensor.elementType.isInteger = true → tensor.HasRoom)
    (valid : ∀ tensor ∈ inputs ++ outputs, tensor.Valid)
    (sameInputs : inputs.map Tensor.signature = inputs₀.map Tensor.signature)
    (sameOutputs : outputs.map Tensor.signature = outputs₀.map Tensor.signature)
    (ledger ledger' : ShadowLedger) :
    let run := (OperatorRun.start (create name params lifetime allowFallback)).performAll
      Registry.default before
    let prepared := run.perform Registry.default (.prepare backend inputs₀ outputs₀ ledger)
    let current := prepared.performAll Registry.default later
    (run.operator.prepare Registry.default backend inputs₀ outputs₀ ledger).outcome = .ok () →
    prepared.operator.binding.phase = .executable ∧
      (lifetime = .untilRelease → (∀ call ∈ later, call.isExecute = true) →
        current.operator.binding.phase = .executable) ∧
      (current.operator.binding.phase = .executable →
        (current.operator.execute Registry.default inputs outputs ledger').outcome = .ok ()) := by
  intro run prepared current ready
  have usable₀ : ∀ tensor ∈ inputs₀ ++ outputs₀, tensor.Usable :=
    fun tensor member => (valid₀ tensor member).usable
  have nothing : ∀ call ∈ ([] : List OperatorCall), call.isPrepare = false := by simp
  obtain ⟨_, preparedRenewed, _⟩ := since_prepare name params lifetime allowFallback usable nothing
    backend usable₀ ledger ready
  obtain ⟨sound, renewed, last⟩ := since_prepare name params lifetime allowFallback usable noPrepare
    backend usable₀ ledger ready
  have executable : prepared.operator.binding.phase = .executable :=
    (((OperatorRun.start_sound name params lifetime allowFallback).performAll
      Registry.default_hooksReadContents usable).prepare_done Registry.default_hooksReadContents
        usable₀ ready).2
  refine ⟨executable, fun lasting executes => ?_, fun live => ?_⟩
  · refine OperatorRun.executable_performAll executes ?_ executable
    exact (congrArg Operator.lifetime preparedRenewed).trans lasting
  · have servedNow : current.operator.ServedInSingles backend inputs₀ := by
      change current.operator.renewed.ServedInSingles backend inputs₀
      rw [renewed]
      exact served
    have sameAll : (inputs ++ outputs).map Tensor.signature =
        (inputs₀ ++ outputs₀).map Tensor.signature := by
      rw [List.map_append, List.map_append, sameInputs, sameOutputs]
    refine sound.execute_succeeds live last
      (fun tensor member => valid₀ tensor (List.mem_append_left _ member)) valid sameInputs
      sameOutputs ?_ ?_ (servedNow.of_signatures sameInputs) ?_ ledger'
    · refine forall_of_signatures (fun own whole => ?_) sameInputs filled
      rwa [Tensor.dims_of_signature own]
    · have settings : current.operator.params = params := congrArg Operator.params renewed
      rw [settings]
      exact fits.of_outlines (Tensor.outlines_of_signatures sameInputs)
    · refine forall_of_signatures (fun own spacious => ?_) sameAll room
      unfold Tensor.HasRoom
      rwa [Tensor.elementType_of_signature own, Tensor.count_of_signature own]

end Operator

end

namespace Operator

def singlePair (name : String) (first second : Single) : Tensor :=
  ⟨name, ⟨[2]⟩, .any, none, .external, .f32 #[first, second]⟩

theorem mixedDifference_succeeds :
    let inputs := [bytePair "x" 0x3F000000 0 20 (-4), singlePair "w" ⟨0x3F800000⟩ ⟨0x40000000⟩]
    let outputs := [bytePair "y" 0x3E800000 3 0 0]
    let run := OperatorRun.start (create "minus" (.binary .sub .none) .untilRelease true)
    let prepared := run.perform Registry.default (.prepare .reference inputs outputs .empty)
    let current := prepared.performAll Registry.default [.execute inputs outputs .empty]
    (run.operator.prepare Registry.default .reference inputs outputs .empty).outcome = .ok () ∧
      run.operator.params.PadsFit inputs ∧ run.operator.ServedInSingles .reference inputs ∧
      (current.operator.execute Registry.default inputs outputs .empty).outcome = .ok () := by
  intro inputs outputs run prepared current
  have ready : (run.operator.prepare Registry.default .reference inputs outputs .empty).outcome =
      .ok () := by
    rw [Registry.default_eq]
    exact eq_ok_of_toBool (by decide +kernel)
  have valid : ∀ tensor ∈ inputs ++ outputs, tensor.Valid := by
    simp only [inputs, outputs, List.cons_append, List.nil_append, List.forall_mem_cons]
    exact ⟨by rfl, by rfl, by rfl, fun _ impossible => by cases impossible⟩
  have filled : ∀ tensor ∈ inputs, 0 ∉ tensor.dims := by
    simp only [inputs, List.forall_mem_cons]
    exact ⟨by decide, by decide, fun _ impossible => by cases impossible⟩
  have served : run.operator.ServedInSingles .reference inputs := by
    have path : (Registry.default.resolve (.binary .sub .none) inputs .reference true).toOption.map
        Resolution.path = some .quantFallback := by
      rw [Registry.default_eq]
      decide +kernel
    obtain ⟨requested, resolved, fallback⟩ := Option.map_eq_some_iff.1 path
    refine .inr ⟨⟨requested, toOption_eq_some.1 resolved, fallback⟩, ?_⟩
    simp only [inputs, List.forall_mem_cons]
    exact ⟨.inr rfl, .inl rfl, fun _ impossible => by cases impossible⟩
  have room : ∀ tensor ∈ inputs ++ outputs, tensor.elementType.isInteger = true →
      tensor.HasRoom := by
    have small : 2 * 4 ≤ Host.allocationLimit := by decide
    simp only [inputs, outputs, List.cons_append, List.nil_append, List.forall_mem_cons]
    exact ⟨fun _ => small, fun _ => small, fun _ => small, fun _ impossible => by cases impossible⟩
  have noCalls : ∀ call ∈ ([] : List OperatorCall), call.Usable := by
    simp
  have noPrepare : ∀ call ∈ [OperatorCall.execute inputs outputs .empty],
      call.isPrepare = false := by
    simp [OperatorCall.isPrepare]
  obtain ⟨_, lasts, succeeds⟩ := prepared_runs_succeed "minus" (.binary .sub .none) .untilRelease
    true noCalls noPrepare .reference valid filled trivial served room valid rfl rfl .empty .empty
    ready
  exact ⟨ready, trivial, served, succeeds (lasts rfl (by simp [OperatorCall.isExecute]))⟩

/-- Padding by almost a whole word before an axis is accepted, as its extent wraps around to the
extent of the output, and the run then writes outside of the output. -/
theorem wrappedPad_aborts :
    let inputs := [singlePair "x" 1 2]
    let outputs := [singlePair "y" 0 0]
    let fresh := create "pad" (.pad [(wordLimit - 1, 1)] 0) .untilRelease true
    let prepared := fresh.prepare Registry.default .reference inputs outputs .empty
    (∀ tensor ∈ inputs ++ outputs, tensor.Valid ∧ 0 ∉ tensor.dims ∧ tensor.elementType = .f32) ∧
      prepared.outcome = .ok () ∧ prepared.operator.binding.phase = .executable ∧
      (prepared.operator.execute Registry.default inputs outputs .empty).outcome =
        .error .aborted := by
  intro inputs outputs fresh prepared
  have whole : ∀ tensor ∈ inputs ++ outputs,
      tensor.Valid ∧ 0 ∉ tensor.dims ∧ tensor.elementType = .f32 := by
    simp only [inputs, outputs, List.cons_append, List.nil_append, List.forall_mem_cons]
    exact ⟨⟨by rfl, by decide, rfl⟩, ⟨by rfl, by decide, rfl⟩,
      fun _ impossible => by cases impossible⟩
  exact ⟨whole, eq_ok_of_toBool (by decide +kernel), by decide +kernel, by decide +kernel⟩

end Operator

end TensorRuntime
